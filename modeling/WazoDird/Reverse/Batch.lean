import WazoDird.Common.Except
import WazoDird.Reverse.Positional

/-!
# A batch over lookups of one extension

`match_all` as `BaseSourcePlugin` has it, for the sources that do not have
their own: `first_match` of each extension. A batch then finds what the
lookups of its extensions find one by one, whatever the two orders the
sources complete in, as long as none raises (`reverseMany_agrees`): one
that raises on an extension is lost to the batch for all of them. A batch
of one extension loses nothing (`reverseMany_singleton`).
-/

namespace WazoDird

variable {ε ρ : Type}

/-- What `first_match` of a source does of each extension. -/
abbrev FirstMatch (ε ρ : Type) := String → Except ε (Option ρ)

/-- One turn of the loop below: what is not a match is left out. -/
def matchTurn (firstMatch : FirstMatch ε ρ) (results : Dict String ρ) (exten : String) :
    Except ε (Dict String ρ) := do
  match ← firstMatch exten with
  | some entry => pure (results.set exten entry)
  | none => pure results

/-- `match_all` of `BaseSourcePlugin`. -/
def BaseSourcePlugin.matchAll (extens : List String) (firstMatch : FirstMatch ε ρ) :
    Except ε (Dict String ρ) :=
  extens.foldlM (matchTurn firstMatch) ∅

namespace BaseSourcePlugin

variable {firstMatch : FirstMatch ε ρ} {extens : List String} {exten : String}
  {result : Dict String ρ}

/-- What a turn does. -/
theorem matchTurn_eq_ok {results results' : Dict String ρ}
    (h : matchTurn firstMatch results exten = .ok results') :
    ∃ entry, firstMatch exten = .ok entry ∧ results' = entry.elim results (results.set exten) := by
  obtain ⟨entry, hentry, hrest⟩ := bind_eq_ok.1 h
  refine ⟨entry, hentry, ?_⟩
  cases entry <;> exact (Except.ok.inj hrest).symm

/-- **What `match_all` returns** is what `first_match` returns of each
extension, and nothing else. -/
theorem matchAll_spec (h : matchAll extens firstMatch = .ok result) (e : String) :
    (e ∈ extens → firstMatch e = .ok (result.get? e)) ∧
      (e ∉ extens → result.get? e = none) := by
  refine foldlM_invariant (I := fun done (results : Dict String ρ) =>
    (e ∈ done → firstMatch e = .ok (results.get? e)) ∧ (e ∉ done → results.get? e = none))
    ?_ ⟨fun he => absurd he List.not_mem_nil, fun _ => rfl⟩ h
  rintro done exten results results' ⟨hin, hout⟩ hturn
  obtain ⟨entry, hentry, rfl⟩ := matchTurn_eq_ok hturn
  by_cases he : e = exten
  · subst he
    refine ⟨fun _ => ?_, fun hnot => absurd (by simp) hnot⟩
    rw [hentry]
    cases entry with
    | some entry => exact congrArg Except.ok (Dict.get?_set_self _ _ _).symm
    | none =>
        -- nothing is written, so nothing was: what is there was matched before
        by_cases hdone : e ∈ done
        · rw [Option.elim_none, ← hin hdone, hentry]
        · rw [Option.elim_none, hout hdone]
  · have hget : (entry.elim results (results.set exten)).get? e = results.get? e := by
      cases entry with
      | none => rfl
      | some entry => exact Dict.get?_set_of_ne _ _ (Ne.symm he)
    have hmem : e ∈ done ++ [exten] ↔ e ∈ done := by simp [he]
    rw [hget, hmem]
    exact ⟨hin, hout⟩

/-- It raises only where `first_match` does. -/
theorem exists_matchAll (h : ∀ e ∈ extens, ∃ r, firstMatch e = .ok r) :
    ∃ result, matchAll extens firstMatch = .ok result := by
  have hneed : ∀ (e : String) (results : Dict String ρ),
      (∃ results', matchTurn firstMatch results e = .ok results') ↔ ∃ r, firstMatch e = .ok r := by
    intro e results
    refine ⟨fun ⟨results', hturn⟩ => ?_, fun ⟨entry, hentry⟩ => ?_⟩
    · obtain ⟨entry, hentry, -⟩ := matchTurn_eq_ok hturn
      exact ⟨entry, hentry⟩
    · rw [matchTurn, hentry]
      cases entry with
      | none => exact ⟨results, rfl⟩
      | some entry => exact ⟨results.set e entry, rfl⟩
  exact (@exists_foldlM_eq_ok ε String (Dict String ρ) _ (fun _ _ => True) _
    (fun _ _ => trivial) (fun {_ e results} _ => hneed e results) [] extens ∅ trivial).2 h

end BaseSourcePlugin

namespace ReverseService

open BaseSourcePlugin

variable {extens : List String} {exten : String} {order order' : List (FirstMatch ε ρ)}

/-- The first match of an extension among sources, in the order they
complete. -/
def firstMatchOf (exten : String) (order : List (FirstMatch ε ρ)) : Option ρ :=
  order.findSome? fun firstMatch => RaiseStopper.execute none (firstMatch exten)

/-- **A batch finds what lookups of one extension find**, whatever the two
orders the sources complete in, when no source raises: an extension has a
result exactly when its own lookup has one, and the result is a match of
one of the sources. -/
theorem reverseMany_agrees (hperm : order.Perm order')
    (hok : ∀ firstMatch ∈ order, ∀ e ∈ extens, ∃ r, firstMatch e = .ok r)
    (he : exten ∈ extens) :
    ∃ result, (collect (noResults ρ extens) (order.map (matchAll extens))).1.get? exten =
        some result ∧
      (result = none ↔ firstMatchOf exten order' = none) ∧
      ∀ r, result = some r → ∃ firstMatch ∈ order, firstMatch exten = .ok (some r) := by
  obtain ⟨-, hmem, -⟩ := @keys_noResults ρ extens
  have hsub : ∀ result, Except.ok result ∈ order.map (matchAll extens) →
      ∀ k ∈ result.keys, k ∈ (noResults ρ extens).keys := by
    intro result hresult k hk
    obtain ⟨firstMatch, -, hfirst⟩ := List.mem_map.1 hresult
    rw [hmem]
    by_contra hnot
    rw [Dict.mem_keys_iff, (matchAll_spec hfirst k).2 hnot] at hk
    cases hk
  obtain ⟨hkeys, hholds⟩ := collect_spec (e := exten) hsub
  have hstart := get?_noResults (ρ := ρ) he
  have hin : exten ∈ (collect (noResults ρ extens) (order.map (matchAll extens))).1.keys := by
    rw [hkeys, hmem]
    exact he
  obtain ⟨result, hget⟩ := Option.isSome_iff_exists.1 (Dict.mem_keys_iff.1 hin)
  obtain ⟨rest, hrest, hstop⟩ := @collect_stops ε ρ (noResults ρ extens)
    (order.map (matchAll extens))
  -- a source heard that answered the extension matched it
  have hanswered : ∀ r, Answered (collect (noResults ρ extens) (order.map (matchAll extens))).2
      exten r → ∃ firstMatch ∈ order, firstMatch exten = .ok (some r) := by
    rintro r ⟨answer, hanswer, hr⟩
    have hall : Except.ok answer ∈ order.map (matchAll extens) := by
      rw [hrest]
      exact List.mem_append_left _ hanswer
    obtain ⟨firstMatch, hfirst, hmatch⟩ := List.mem_map.1 hall
    exact ⟨firstMatch, hfirst, by rw [(matchAll_spec hmatch exten).1 he, hr]⟩
  refine ⟨result, hget, ?_, fun r hr => ?_⟩
  · have hnone := hholds.none_iff
    rw [hget, hstart] at hnone
    rw [firstMatchOf, List.findSome?_eq_none_iff]
    constructor
    · rintro rfl firstMatch hfirst
      obtain ⟨-, hnot⟩ := hnone.1 rfl
      -- an extension without a result keeps the loop from being left
      have hfull : rest = [] := by
        refine hstop.resolve_right fun hmatched => ?_
        have hvalue := List.all_eq_true.1 hmatched none
          (List.mem_map.2 ⟨(exten, none), Dict.get?_eq_some_iff.1 hget, rfl⟩)
        cases hvalue
      rw [hfull, List.append_nil] at hrest
      have hfirst' := hperm.mem_iff.2 hfirst
      obtain ⟨answer, hanswer⟩ := exists_matchAll (hok firstMatch hfirst')
      have hmatch := (matchAll_spec hanswer exten).1 he
      cases hr : answer.get? exten with
      | none => rw [hmatch, hr]; rfl
      | some r =>
          refine absurd ⟨answer, ?_, hr⟩ (hnot r)
          rw [← hrest, ← hanswer]
          exact List.mem_map_of_mem hfirst'
    · intro hall
      refine Option.some.inj (hnone.2 ⟨rfl, fun r hr => ?_⟩)
      obtain ⟨firstMatch, hfirst, hmatch⟩ := hanswered r hr
      have := hall firstMatch (hperm.mem_iff.1 hfirst)
      rw [hmatch] at this
      cases this
  · subst hr
    refine hanswered r ((hholds.some_of r hget).resolve_left fun h => ?_)
    rw [hstart] at h
    cases h

/-- Sources that each know one extension. -/
def knowsOnly (exten : String) (result : ℕ) : FirstMatch Unit ℕ :=
  fun e => .ok (if e = exten then some result else none)

/-- Two sources, which complete the one way and the other. -/
theorem reverseMany_agrees_two : ∃ result,
    (collect (noResults ℕ ["1", "2"]) ([knowsOnly "1" 7, knowsOnly "3" 8].map
      (matchAll ["1", "2"]))).1.get? "1" = some result ∧
    (result = none ↔ firstMatchOf "1" [knowsOnly "3" 8, knowsOnly "1" 7] = none) :=
  (reverseMany_agrees (List.Perm.swap _ _ _)
    (show ∀ firstMatch ∈ [knowsOnly "1" 7, knowsOnly "3" 8], ∀ e ∈ ["1", "2"],
      ∃ r, firstMatch e = .ok r by simp [knowsOnly]) List.mem_cons_self).imp
    fun _ h => ⟨h.1, h.2.1⟩

/-- A result for the one extension asked for. -/
theorem values_update_noResults (exten : String) (entry : ρ) :
    ((noResults ρ [exten]).update (((∅ : Dict String ρ).set exten entry).map some)).values =
      [some entry] := by
  have hkey : ∀ k, k ∈ (((∅ : Dict String ρ).set exten entry).map some).keys →
      k ∈ (noResults ρ [exten]).keys := by
    intro k hk
    rw [Dict.keys_map, Dict.mem_keys_set] at hk
    rw [keys_noResults.2.1]
    exact List.mem_singleton.2 (hk.resolve_right List.not_mem_nil)
  refine Dict.values_eq_singleton (k := exten) (fun k hk => ?_) ?_
  · rw [Dict.keys_update_of_subset hkey, keys_noResults.2.1] at hk
    exact List.mem_singleton.1 hk
  · rw [Dict.get?_update, Dict.get?_map, Dict.get?_set_self]
    rfl

/-- **A batch of one extension is its lookup**, sources that raise
included, when the sources complete in the same order. -/
theorem reverseMany_singleton (exten : String) (order : List (FirstMatch ε ρ)) :
    (collect (noResults ρ [exten]) (order.map (matchAll [exten]))).1.values =
      [firstMatchOf exten order] := by
  induction order with
  | nil => rfl
  | cons firstMatch order ih =>
      rw [List.map_cons, collect, firstMatchOf, List.findSome?_cons]
      have hone : matchAll [exten] firstMatch =
          (firstMatch exten).map fun entry => entry.elim ∅ ((∅ : Dict String ρ).set exten) := by
        rw [matchAll, List.foldlM_cons, matchTurn]
        cases firstMatch exten with
        | error e => rfl
        | ok entry => cases entry <;> rfl
      rw [hone]
      cases firstMatch exten with
      | error e => exact ih
      | ok entry =>
          cases entry with
          | none => exact ih
          | some entry =>
              -- the one extension has a result, so the others are not waited for
              have hvalues := values_update_noResults exten entry
              have hmatched : allMatched ((noResults ρ [exten]).update
                  (((∅ : Dict String ρ).set exten entry).map some)) = true := by
                rw [allMatched, hvalues]
                rfl
              have hanswer : (asyncReverseMany (Except.map (fun entry : Option ρ =>
                  entry.elim ∅ ((∅ : Dict String ρ).set exten)) (.ok (some entry) :
                    Except ε (Option ρ)))).filter (fun result => !result.isEmpty) =
                  some ((∅ : Dict String ρ).set exten entry) := rfl
              rw [hanswer]
              dsimp only
              rw [if_pos hmatched]
              exact hvalues

end ReverseService

end WazoDird
