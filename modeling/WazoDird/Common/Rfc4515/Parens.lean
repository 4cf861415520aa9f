import Mathlib.Data.List.Basic

/-!
# The parentheses of a search filter

The string representation of search filters (RFC 4515), with the empty
lists of RFC 4526, is read in two stages: its parentheses, by a machine
that goes over the text once (`step`), and the items between them
(`Filter.lean`). A parenthesis never stands inside an item, so this stage
knows nothing of the other, and what the machine accepts is exactly what
`render` writes.
-/

namespace WazoDird

namespace Rfc4515

/-- A filter over its items. -/
inductive SearchFilter (α : Type) where
  | and (fs : List (SearchFilter α))
  | or (fs : List (SearchFilter α))
  | not (f : SearchFilter α)
  | item (a : α)

instance {α : Type} : Inhabited (SearchFilter α) := ⟨.or []⟩

variable {α β : Type}

/-! ## What is written is parsed -/

/-- A filter as text, its items given as text. -/
abbrev Tree := SearchFilter (List Char)

mutual

/-- The text of a filter. -/
def render : Tree → List Char
  | .and fs => '(' :: '&' :: (renderAll fs ++ [')'])
  | .or fs => '(' :: '|' :: (renderAll fs ++ [')'])
  | .not f => '(' :: '!' :: (render f ++ [')'])
  | .item text => '(' :: (text ++ [')'])

/-- The text of a list of filters. -/
def renderAll : List Tree → List Char
  | [] => []
  | f :: fs => render f ++ renderAll fs

end

/-- Text that can stand as an item: without parentheses, and not read as
an operator. -/
def IsItemText (text : List Char) : Prop :=
  '(' ∉ text ∧ ')' ∉ text ∧ ∃ c cs, text = c :: cs ∧ c ≠ '&' ∧ c ≠ '|' ∧ c ≠ '!'

mutual

/-- Every item of a filter is one. -/
def WellFormed : Tree → Prop
  | .and fs => AllWellFormed fs
  | .or fs => AllWellFormed fs
  | .not f => WellFormed f
  | .item text => IsItemText text

/-- Every item of a list of filters is one. -/
def AllWellFormed : List Tree → Prop
  | [] => True
  | f :: fs => WellFormed f ∧ AllWellFormed fs

end

/-- The operators that take a list of filters, or one. -/
inductive Kind where
  | and
  | or
  | not
  deriving DecidableEq, Repr

/-- A filter begun: its operator and the filters read, last first. -/
abbrev Frame := Kind × List Tree

/-- Where the machine stands, in the filters begun, innermost first. -/
inductive State where
  /-- At the start of a filter, or the end of the innermost. -/
  | ready (stack : List Frame)
  /-- After an opening parenthesis. -/
  | opened (stack : List Frame)
  /-- In an item, its text last character first. -/
  | item (text : List Char) (stack : List Frame)
  /-- At the end of the outermost filter. -/
  | done (f : Tree)

/-- Close a filter. A negation takes exactly one. -/
def close : Frame → Option Tree
  | (.and, fs) => some (.and fs.reverse)
  | (.or, fs) => some (.or fs.reverse)
  | (.not, [f]) => some (.not f)
  | (.not, _) => none

/-- Where a filter that has been read leaves the machine. -/
def State.after (f : Tree) : List Frame → State
  | [] => .done f
  | (k, fs) :: stack => .ready ((k, f :: fs) :: stack)

/-- The operator a character is. -/
def Kind.ofChar? : Char → Option Kind
  | '&' => some .and
  | '|' => some .or
  | '!' => some .not
  | _ => none

/-- **Read one character.** -/
def step (s : State) (c : Char) : Option State :=
  match s with
  | .ready stack =>
    if c = '(' then some (.opened stack)
    else if c = ')' then
      match stack with
      | [] => none
      | frame :: stack => (close frame).map fun f => .after f stack
    else none
  | .opened stack =>
    match Kind.ofChar? c with
    | some k => some (.ready ((k, []) :: stack))
    | none => if c = '(' ∨ c = ')' then none else some (.item [c] stack)
  | .item text stack =>
    if c = ')' then some (.after (.item text.reverse) stack)
    else if c = '(' then none
    else some (.item (c :: text) stack)
  | .done _ => none

/-- Read a text. -/
def run (s : State) (cs : List Char) : Option State := cs.foldlM step s

/-- The filter read, at the end. -/
def State.result : State → Option Tree
  | .done f => some f
  | _ => none

/-- **Parse the parentheses of a filter.** -/
def parseTree (cs : List Char) : Option Tree := (run (.ready []) cs).bind State.result

@[simp] theorem run_nil (s : State) : run s [] = some s := rfl

theorem run_cons (s : State) (c : Char) (cs : List Char) :
    run s (c :: cs) = (step s c).bind (run · cs) := rfl

theorem run_append (s : State) (cs cs' : List Char) :
    run s (cs ++ cs') = (run s cs).bind (run · cs') :=
  List.foldlM_append

/-! What a character does to the machine. -/

@[simp] theorem step_open (stack : List Frame) : step (.ready stack) '(' = some (.opened stack) :=
  rfl

@[simp] theorem step_close (frame : Frame) (stack : List Frame) :
    step (.ready (frame :: stack)) ')' = (close frame).map (State.after · stack) := rfl

@[simp] theorem step_and (stack : List Frame) :
    step (.opened stack) '&' = some (.ready ((.and, []) :: stack)) := rfl

@[simp] theorem step_or (stack : List Frame) :
    step (.opened stack) '|' = some (.ready ((.or, []) :: stack)) := rfl

@[simp] theorem step_not (stack : List Frame) :
    step (.opened stack) '!' = some (.ready ((.not, []) :: stack)) := rfl

@[simp] theorem step_end (text : List Char) (stack : List Frame) :
    step (.item text stack) ')' = some (.after (.item text.reverse) stack) := rfl

/-- The rest of an item is read to its closing parenthesis. -/
theorem run_item {rest : List Char} (stack : List Frame) (text : List Char)
    (ho : '(' ∉ rest) (hc : ')' ∉ rest) :
    run (.item text stack) (rest ++ [')']) =
      some (.after (.item (text.reverse ++ rest)) stack) := by
  induction rest generalizing text with
  | nil => simp [run_cons]
  | cons c cs ih =>
    rw [List.mem_cons, not_or] at ho hc
    have hstep : step (.item text stack) c = some (.item (c :: text) stack) := by
      simp only [step]
      rw [if_neg (Ne.symm hc.1), if_neg (Ne.symm ho.1)]
    rw [List.cons_append, run_cons, hstep, Option.bind_some, ih (c :: text) ho.2 hc.2]
    simp

mutual

/-- **What is written reads back**, in the middle of any filters begun. -/
theorem run_render (f : Tree) (h : WellFormed f) (stack : List Frame) :
    run (.ready stack) (render f) = some (.after f stack) := by
  match f with
  | .and fs =>
    have hall := run_renderAll fs h .and [] stack
    rw [render, run_cons, step_open, Option.bind_some, run_cons, step_and, Option.bind_some,
      run_append, hall]
    simp [run_cons, close]
  | .or fs =>
    have hall := run_renderAll fs h .or [] stack
    rw [render, run_cons, step_open, Option.bind_some, run_cons, step_or, Option.bind_some,
      run_append, hall]
    simp [run_cons, close]
  | .not f =>
    have hone := run_render f h ((.not, []) :: stack)
    rw [render, run_cons, step_open, Option.bind_some, run_cons, step_not, Option.bind_some,
      run_append, hone]
    simp [run_cons, close, State.after]
  | .item text =>
    obtain ⟨ho, hc, c, cs, rfl, ha, hb, hn⟩ := h
    rw [List.mem_cons, not_or] at ho hc
    have hop : Kind.ofChar? c = none := by
      unfold Kind.ofChar?
      split <;> simp_all
    have hopened : step (.opened stack) c = some (.item [c] stack) := by
      simp only [step, hop]
      rw [if_neg fun h => h.elim (fun h => ho.1 h.symm) fun h => hc.1 h.symm]
    rw [render, run_cons, step_open, Option.bind_some, List.cons_append, run_cons, hopened,
      Option.bind_some, run_item stack [c] ho.2 hc.2]
    rfl

/-- A list of filters is read into the one they stand in. -/
theorem run_renderAll (fs : List Tree) (h : AllWellFormed fs) (k : Kind) (before : List Tree)
    (stack : List Frame) :
    run (.ready ((k, before) :: stack)) (renderAll fs) =
      some (.ready ((k, fs.reverse ++ before) :: stack)) := by
  match fs with
  | [] => rfl
  | f :: fs =>
    have hone := run_render f h.1 ((k, before) :: stack)
    have hrest := run_renderAll fs h.2 k (f :: before) stack
    rw [renderAll, run_append, hone, Option.bind_some, State.after, hrest]
    simp

end

/-- **What is written is what is parsed.** -/
theorem parseTree_render (f : Tree) (h : WellFormed f) : parseTree (render f) = some f := by
  rw [parseTree, run_render f h]
  rfl

/-! ## What is parsed is what is written -/

theorem renderAll_append (fs fs' : List Tree) :
    renderAll (fs ++ fs') = renderAll fs ++ renderAll fs' := by
  induction fs with
  | nil => rfl
  | cons f fs ih => rw [List.cons_append, renderAll, renderAll, ih, List.append_assoc]

theorem allWellFormed_iff {fs : List Tree} : AllWellFormed fs ↔ ∀ f ∈ fs, WellFormed f := by
  induction fs with
  | nil => exact ⟨fun _ f hf => (by cases hf), fun _ => trivial⟩
  | cons f fs ih => rw [AllWellFormed, ih, List.forall_mem_cons]

/-- The character of an operator. -/
def Kind.char : Kind → Char
  | .and => '&'
  | .or => '|'
  | .not => '!'

/-- The text of the filters begun. -/
def framesText : List Frame → List Char
  | [] => []
  | (k, fs) :: stack => framesText stack ++ '(' :: k.char :: renderAll fs.reverse

/-- The text the machine has read. -/
def State.text : State → List Char
  | .ready stack => framesText stack
  | .opened stack => framesText stack ++ ['(']
  | .item text stack => framesText stack ++ '(' :: text.reverse
  | .done f => render f

/-- The filters read in those begun are well formed. -/
def FramesGood (stack : List Frame) : Prop := ∀ frame ∈ stack, AllWellFormed frame.2

/-- What the machine has read is well formed. -/
def State.Good : State → Prop
  | .ready stack => FramesGood stack
  | .opened stack => FramesGood stack
  | .item text stack => FramesGood stack ∧ IsItemText text.reverse
  | .done f => WellFormed f

theorem text_after (f : Tree) (stack : List Frame) :
    (State.after f stack).text = framesText stack ++ render f := by
  cases stack with
  | nil => rfl
  | cons frame stack =>
    rw [State.after, State.text, framesText, framesText, List.reverse_cons, renderAll_append,
      renderAll, renderAll]
    simp

theorem good_after {f : Tree} {stack : List Frame} (hf : WellFormed f) (hs : FramesGood stack) :
    (State.after f stack).Good := by
  cases stack with
  | nil => exact hf
  | cons frame stack =>
    intro frame' hframe'
    rcases List.mem_cons.1 hframe' with rfl | hmem
    · exact ⟨hf, hs frame List.mem_cons_self⟩
    · exact hs frame' (List.mem_cons_of_mem _ hmem)

/-- Closing a filter writes its closing parenthesis. -/
theorem close_spec {frame : Frame} {f : Tree} (h : close frame = some f) :
    render f = '(' :: frame.1.char :: (renderAll frame.2.reverse ++ [')']) ∧
      (AllWellFormed frame.2 → WellFormed f) := by
  have hreverse : AllWellFormed frame.2 → AllWellFormed frame.2.reverse := by
    intro hall
    rw [allWellFormed_iff] at hall ⊢
    exact fun g hg => hall g (List.mem_reverse.1 hg)
  unfold close at h
  split at h
  · cases h
    exact ⟨rfl, hreverse⟩
  · cases h
    exact ⟨rfl, hreverse⟩
  · cases h
    refine ⟨?_, fun hall => hall.1⟩
    rw [render, List.reverse_singleton, renderAll, renderAll, List.append_nil]
    rfl
  · cases h

theorem ofChar?_eq_some {c : Char} {k : Kind} (h : Kind.ofChar? c = some k) : k.char = c := by
  unfold Kind.ofChar? at h
  split at h <;> cases h <;> rfl

theorem ofChar?_eq_none {c : Char} (h : Kind.ofChar? c = none) : c ≠ '&' ∧ c ≠ '|' ∧ c ≠ '!' := by
  refine ⟨?_, ?_, ?_⟩ <;> rintro rfl <;> cases h

/-- **One character is read as it stands**, and what was well formed stays
so. -/
theorem step_spec {s s' : State} {c : Char} (h : step s c = some s') :
    s'.text = s.text ++ [c] ∧ (s.Good → s'.Good) := by
  cases s with
  | ready stack =>
    simp only [step] at h
    split at h
    · next hc =>
      cases h
      exact ⟨by rw [hc]; rfl, id⟩
    · split at h
      · next hc =>
        split at h
        · cases h
        · next frame stack =>
          obtain ⟨f, hclose, rfl⟩ := Option.map_eq_some_iff.1 h
          obtain ⟨htext, hgood⟩ := close_spec hclose
          refine ⟨?_, fun hs => ?_⟩
          · rw [text_after, htext, State.text, framesText, hc]
            simp
          · exact good_after (hgood (hs frame List.mem_cons_self))
              fun frame' hmem => hs frame' (List.mem_cons_of_mem _ hmem)
      · cases h
  | opened stack =>
    simp only [step] at h
    split at h
    · next k hk =>
      cases h
      refine ⟨?_, fun hs frame hframe => ?_⟩
      · rw [State.text, State.text, framesText, ofChar?_eq_some hk]
        simp [renderAll]
      · rcases List.mem_cons.1 hframe with rfl | hmem
        · trivial
        · exact hs frame hmem
    · next hk =>
      split at h
      · cases h
      · next hparen =>
        cases h
        rw [not_or] at hparen
        refine ⟨by simp [State.text], fun hs => ⟨hs, ?_, ?_, c, [], rfl, ofChar?_eq_none hk⟩⟩
        · simpa using Ne.symm hparen.1
        · simpa using Ne.symm hparen.2
  | item text stack =>
    simp only [step] at h
    split at h
    · next hc =>
      cases h
      refine ⟨?_, fun hs => good_after hs.2 hs.1⟩
      rw [text_after, render, State.text, hc]
      simp
    · next hc =>
      split at h
      · cases h
      · next ho =>
        cases h
        refine ⟨by simp [State.text], fun hs => ⟨hs.1, ?_⟩⟩
        obtain ⟨ho', hc', d, ds, htext, hd⟩ := hs.2
        refine ⟨?_, ?_, d, ds ++ [c], ?_, hd⟩
        · simpa [List.reverse_cons] using ⟨by simpa using ho', Ne.symm ho⟩
        · simpa [List.reverse_cons] using ⟨by simpa using hc', Ne.symm hc⟩
        · rw [List.reverse_cons, htext, List.cons_append]
  | done f => cases h

/-- A text is read as it stands. -/
theorem run_spec {s s' : State} {cs : List Char} (h : run s cs = some s') :
    s'.text = s.text ++ cs ∧ (s.Good → s'.Good) := by
  induction cs generalizing s with
  | nil =>
    cases h
    exact ⟨(List.append_nil _).symm, id⟩
  | cons c cs ih =>
    rw [run_cons] at h
    obtain ⟨mid, hmid, hrest⟩ := Option.bind_eq_some_iff.1 h
    obtain ⟨htext, hgood⟩ := step_spec hmid
    obtain ⟨htext', hgood'⟩ := ih hrest
    refine ⟨?_, hgood' ∘ hgood⟩
    rw [htext', htext, List.append_assoc, List.singleton_append]

/-- **What is parsed is what is written.** -/
theorem parseTree_eq_some_iff {cs : List Char} {f : Tree} :
    parseTree cs = some f ↔ render f = cs ∧ WellFormed f := by
  constructor
  · intro h
    obtain ⟨s, hs, hresult⟩ := Option.bind_eq_some_iff.1 h
    obtain ⟨htext, hgood⟩ := run_spec hs
    cases s with
    | done g =>
      cases hresult
      exact ⟨htext, hgood fun frame hframe => by cases hframe⟩
    | _ => cases hresult
  · rintro ⟨rfl, hf⟩
    exact parseTree_render f hf

end Rfc4515

end WazoDird
