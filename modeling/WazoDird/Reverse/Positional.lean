import Mathlib.Data.List.Perm.Subperm
import WazoDird.Reverse.Model

/-!
# Where the answers stand

The loop keeps the keys of the dictionary it was given, the extensions,
and holds under each what the sources consulted said of it
(`collect_spec`). A dictionary holds each extension once: read as a list
it has an entry for each extension asked for exactly when no extension is
asked for twice (`reverseMany_positional_iff`).
-/

namespace WazoDird

variable {ε ρ : Type} {extens : List String} {results : Dict String (Option ρ)}
  {futures : List (MatchAll ε ρ)} {e : String}

namespace ReverseService

/-- A future that answers something has a source that returned it. -/
theorem asyncReverseMany_eq_some {future : MatchAll ε ρ} {result : Dict String ρ}
    (h : asyncReverseMany future = some result) : future = .ok result := by
  cases future with
  | error e => cases h
  | ok r =>
    obtain rfl := Option.some.inj h
    rfl

/-- A future passed over matches nothing. -/
theorem not_answered_of_filter {future : MatchAll ε ρ}
    (h : (asyncReverseMany future).filter (fun result => !result.isEmpty) = none) (r : ρ) :
    ¬ Answered [future] e r := by
  rintro ⟨result, hmem, hget⟩
  obtain rfl := List.mem_singleton.1 hmem
  have hempty : result.isEmpty = true := by
    simpa [asyncReverseMany, RaiseStopper.execute, Except.map] using h
  have hnil : result.entries = [] := List.isEmpty_iff.1 hempty
  rw [Dict.get?, hnil] at hget
  cases hget

/-- What one consulted future adds to what the others say. -/
theorem answered_cons {future : MatchAll ε ρ} {r : ρ} :
    Answered (future :: futures) e r ↔ Answered [future] e r ∨ Answered futures e r := by
  constructor
  · rintro ⟨result, hmem, hget⟩
    rcases List.mem_cons.1 hmem with hmem | hmem
    · exact Or.inl ⟨result, List.mem_singleton.2 hmem, hget⟩
    · exact Or.inr ⟨result, hmem, hget⟩
  · rintro (⟨result, hmem, hget⟩ | ⟨result, hmem, hget⟩)
    · exact ⟨result, List.mem_cons.2 (Or.inl (List.mem_singleton.1 hmem)), hget⟩
    · exact ⟨result, List.mem_cons_of_mem _ hmem, hget⟩

/-- **What the results hold of an extension**: what they held before, or a
match of a future since, and none only when they held none and no future
since has matched. -/
structure Holds (before after : Dict String (Option ρ)) (consumed : List (MatchAll ε ρ))
    (e : String) : Prop where
  none_iff : after.get? e = some none ↔
    before.get? e = some none ∧ ∀ r, ¬ Answered consumed e r
  some_of : ∀ r, after.get? e = some (some r) →
    before.get? e = some (some r) ∨ Answered consumed e r

/-- Merging the answer of one future. -/
theorem holds_update {result : Dict String ρ} (hsub : ∀ k ∈ result.keys, k ∈ results.keys) :
    (results.update (result.map some)).keys = results.keys ∧
      Holds results (results.update (result.map some)) ([.ok result] : List (MatchAll ε ρ)) e := by
  have hget : (results.update (result.map some)).get? e =
      ((result.get? e).map some).or (results.get? e) := by
    rw [Dict.get?_update, Dict.get?_map]
  have hanswered : ∀ r, Answered ([.ok result] : List (MatchAll ε ρ)) e r ↔
      result.get? e = some r := by
    intro r
    constructor
    · rintro ⟨result', hmem, hr⟩
      obtain rfl := Except.ok.inj (List.mem_singleton.1 hmem)
      exact hr
    · intro hr
      exact ⟨result, List.mem_singleton_self _, hr⟩
  refine ⟨Dict.keys_update_of_subset (by simpa using hsub), ?_, fun r hr => ?_⟩
  · rw [hget]
    cases hres : result.get? e with
    | none => simp [hanswered, hres]
    | some r => simp [hanswered, hres]
  · rw [hget] at hr
    cases hres : result.get? e with
    | none =>
      rw [hres] at hr
      exact Or.inl hr
    | some r' =>
      rw [hres] at hr
      refine Or.inr ((hanswered r).2 ?_)
      simpa [hres] using hr

/-- One merge after another. -/
theorem Holds.trans {before mid after : Dict String (Option ρ)} {rest : List (MatchAll ε ρ)}
    {future : MatchAll ε ρ} (h : Holds before mid [future] e) (h' : Holds mid after rest e) :
    Holds before after (future :: rest) e := by
  refine ⟨?_, fun r hr => ?_⟩
  · rw [h'.none_iff, h.none_iff]
    constructor
    · rintro ⟨⟨hb, hf⟩, hrest⟩
      exact ⟨hb, fun r hr => (answered_cons.1 hr).elim (hf r) (hrest r)⟩
    · rintro ⟨hb, hall⟩
      exact ⟨⟨hb, fun r hr => hall r (answered_cons.2 (Or.inl hr))⟩,
        fun r hr => hall r (answered_cons.2 (Or.inr hr))⟩
  · rcases h'.some_of r hr with hmid | hrest
    · exact (h.some_of r hmid).imp id fun hf => answered_cons.2 (Or.inl hf)
    · exact Or.inr (answered_cons.2 (Or.inr hrest))

/-- **The loop answers each extension from what it consulted**, and keeps
the keys. -/
theorem collect_spec (hsub : ∀ result, Except.ok result ∈ futures → ∀ k ∈ result.keys,
      k ∈ results.keys) :
    (collect results futures).1.keys = results.keys ∧
      Holds results (collect results futures).1 (collect results futures).2 e := by
  induction futures generalizing results with
  | nil =>
    refine ⟨rfl, ⟨?_, fun r hr => Or.inl hr⟩⟩
    simp [collect, Answered]
  | cons future futures ih =>
    have hrest : ∀ result, Except.ok result ∈ futures → ∀ k ∈ result.keys, k ∈ results.keys :=
      fun result hmem => hsub result (List.mem_cons_of_mem _ hmem)
    unfold collect
    split
    · next hpass =>
      -- nothing to merge: the future matches nothing
      obtain ⟨hkeys, hholds⟩ := ih hrest
      have hself : Holds results results [future] e :=
        ⟨by simp [not_answered_of_filter hpass], fun r hr => Or.inl hr⟩
      exact ⟨hkeys, hself.trans hholds⟩
    · next result hresult =>
      obtain ⟨hfut, -⟩ := Option.filter_eq_some_iff.1 hresult
      obtain rfl := asyncReverseMany_eq_some hfut
      obtain ⟨hkeys, hholds⟩ := holds_update (ε := ε) (e := e) (hsub result List.mem_cons_self)
      dsimp only
      split
      · exact ⟨hkeys, hholds⟩
      · have hrest' : ∀ result', Except.ok result' ∈ futures → ∀ k ∈ result'.keys,
            k ∈ (results.update (result.map some)).keys := by
          intro result' hmem k hk
          rw [hkeys]
          exact hrest result' hmem k hk
        obtain ⟨hkeys', hholds'⟩ := ih hrest'
        exact ⟨hkeys'.trans hkeys, hholds.trans hholds'⟩

/-- The loop consults the futures in their order, and leaves some out only
once every extension has a result. -/
theorem collect_stops : ∃ rest, futures = (collect results futures).2 ++ rest ∧
    (rest = [] ∨ allMatched (collect results futures).1 = true) := by
  induction futures generalizing results with
  | nil => exact ⟨[], rfl, Or.inl rfl⟩
  | cons future futures ih =>
    unfold collect
    split
    · obtain ⟨rest, hrest, hstop⟩ := @ih results
      exact ⟨rest, by simpa using hrest, hstop⟩
    · next result _ =>
      dsimp only
      split
      · next hall => exact ⟨futures, rfl, Or.inr hall⟩
      · obtain ⟨rest, hrest, hstop⟩ := @ih (results.update (result.map some))
        exact ⟨rest, by simpa using hrest, hstop⟩

/-- The loop starts with no result for each extension. -/
theorem get?_noResults (he : e ∈ extens) : (noResults ρ extens).get? e = some none := by
  rw [noResults, Dict.ofList, Dict.get?_setAll]
  have hmem : (e, (none : Option ρ)) ∈
      (extens.map fun exten => (exten, none)).filter (fun x => x.1 = e) := by
    simp [he]
  obtain ⟨x, hx⟩ := Option.isSome_iff_exists.1 (List.getLast?_isSome.2 (List.ne_nil_of_mem hmem))
  have hxm := List.mem_of_getLast? hx
  have hnone : x.2 = none := by
    obtain ⟨-, -, rfl⟩ : ∃ a ∈ extens, (a, none) = x := by
      simpa using (List.mem_filter.1 hxm).1
    rfl
  rw [hx, Option.map_some, hnone]
  rfl

/-- The keys the loop starts with are the extensions, once each. -/
theorem keys_noResults : (noResults ρ extens).keys.Nodup ∧
    (∀ k, k ∈ (noResults ρ extens).keys ↔ k ∈ extens) ∧
    (extens.Nodup → (noResults ρ extens).keys = extens) := by
  refine ⟨(noResults ρ extens).nodup, fun k => ?_, fun h => ?_⟩
  · simp [noResults, Dict.mem_keys_ofList]
  · have hmap : (extens.map fun exten => (exten, (none : Option ρ))).map Prod.fst = extens := by
      simp [Function.comp_def]
    rw [noResults, Dict.keys_ofList_of_nodup (by rw [hmap]; exact h), hmap]

/-- **`reverse_many` answers positionally exactly when no extension is
asked for twice**, whatever the sources answer for the extensions, in
whatever order they complete and wherever the iteration is cut. -/
theorem reverseMany_positional_iff {sources : List (MatchAll ε ρ)}
    (hsub : ∀ result, Except.ok result ∈ sources → ∀ k ∈ result.keys, k ∈ extens)
    (completed : List (Fin sources.length)) :
    Positional extens (reverseMany extens sources completed).2
      (reverseMany extens sources completed).1 ↔ extens.Nodup := by
  have hsub' : ∀ result, Except.ok result ∈ completed.map sources.get →
      ∀ k ∈ result.keys, k ∈ (noResults ρ extens).keys := by
    intro result hmem k hk
    obtain ⟨i, -, hi⟩ := List.mem_map.1 hmem
    have hsource : Except.ok result ∈ sources := hi ▸ List.get_mem sources i
    exact (keys_noResults.2.1 k).2 (hsub result hsource k hk)
  have hspec := fun e => collect_spec (e := e) hsub'
  have hkeys := (hspec "").1
  obtain ⟨hnodup, hmem, hkeep⟩ := @keys_noResults ρ extens
  have hlength : (reverseMany extens sources completed).1.length =
      (noResults ρ extens).keys.length := by
    rw [← hkeys]
    exact Dict.length_values _
  constructor
  · rintro ⟨hlen, -⟩
    have hsubperm : (noResults ρ extens).keys.Subperm extens :=
      hnodup.subperm fun k hk => (hmem k).1 hk
    have hle : extens.length ≤ (noResults ρ extens).keys.length := by omega
    exact (hsubperm.perm_of_length_le hle).nodup_iff.1 hnodup
  · intro h
    have hkept := hkeys.trans (hkeep h)
    refine ⟨hlength.trans (by rw [hkeep h]), fun i hi ha => ?_⟩
    have hentry := Dict.get?_getElem_keys
      (collect (noResults ρ extens) (completed.map sources.get)).1
      (i := i) (by rw [hkept]; exact hi) ha
    simp only [hkept] at hentry
    obtain ⟨hnone, hsome⟩ := (hspec extens[i]).2
    have hstart := get?_noResults (ρ := ρ) (List.getElem_mem hi)
    rw [hentry, hstart] at hnone hsome
    constructor
    · have hiff := hnone
      simp only [Option.some.injEq, true_and] at hiff
      exact hiff
    · intro r hr
      have hr' := hsome r (congrArg some hr)
      exact hr'.resolve_left (by simp)

/-- A source that matches one extension. -/
def matchesOnly (exten : String) : MatchAll Unit ℕ := .ok ((∅ : Dict String ℕ).set exten 7)

/-- Two extensions, one source that raises and one that matches the
second. -/
theorem positional_two : Positional ["1", "2"]
    (reverseMany ["1", "2"] [.error (), matchesOnly "2"] [1, 0]).2
    (reverseMany ["1", "2"] [.error (), matchesOnly "2"] [1, 0]).1 := by
  have hsub : ∀ result, Except.ok result ∈ [.error (), matchesOnly "2"] →
      ∀ k ∈ result.keys, k ∈ ["1", "2"] := by
    intro result hmem k hk
    have hresult : Except.ok result = matchesOnly "2" := by simpa using hmem
    obtain rfl := Except.ok.inj hresult
    have hk : k ∈ ["2"] := hk
    simp [List.mem_singleton.1 hk]
  exact (reverseMany_positional_iff hsub [1, 0]).2 (by decide)

/-- **An extension asked for twice shifts the answers**: three extensions
come back as two entries, the second extension's being the third's. -/
theorem not_positional_repeated :
    (reverseMany ["1", "1", "2"] [matchesOnly "2"] [0]).1 = [none, some 7] ∧
    ¬ Positional ["1", "1", "2"] (reverseMany ["1", "1", "2"] [matchesOnly "2"] [0]).2
      (reverseMany ["1", "1", "2"] [matchesOnly "2"] [0]).1 := by
  have hanswer : (reverseMany ["1", "1", "2"] [matchesOnly "2"] [0]).1 = [none, some 7] := by
    decide
  refine ⟨hanswer, ?_⟩
  rintro ⟨hlength, -⟩
  rw [hanswer] at hlength
  cases hlength

end ReverseService

end WazoDird
