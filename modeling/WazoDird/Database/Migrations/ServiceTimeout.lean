import WazoDird.Common.Text
import WazoDird.Database.Directory

/-!
# Moving the timeout of a profile's services

The revision `5a67556fbbf1` of the database: a timeout at the top of a
service's configuration moves under its options, where the services read it.
A timeout there stays as it is, even one that is null: then the one at the
top is lost (`preserves_iff`).
-/

namespace WazoDird

/-- `if key not in v: v[key] = value`. -/
def Value.setNew (v : Value) (key : String) (value : Value) : Except PyError Value :=
  match v with
  | .dict l => .ok (.dict (if key ∈ l.map Prod.fst then l else Dict.write key value l))
  | .list l => if .str key ∈ l then .ok (.list l) else .error .typeError
  | .str s => if inText key s then .ok (.str s) else .error .typeError
  | _ => .error .typeError

namespace ServiceTimeout

/-- `config.get('options') or {}`. -/
def options (config : Fields) : Value := ((config.get? "options").getD .none).or (.dict [])

/-- What the lookup and reverse services read of a service's configuration. -/
def readTimeout (config : Fields) : Except PyError Value := (options config).get "timeout"

/-- One row of `upgrade`: the configuration it writes. -/
def upgradeConfig (config : Fields) (topLevelTimeout : Value) : Except PyError Fields := do
  let config := config.erase "timeout"
  let options ← (options config).setNew "timeout" topLevelTimeout
  return config.set "options" options

/-- One turn of the loop of `upgrade`: a row without a timeout is passed
over. -/
def upgradeRow (table : List ProfileService) (row : ProfileService) :
    Except PyError (List ProfileService) :=
  match row.config.get? "timeout" with
  | none => .ok table
  | some topLevelTimeout => do
    let config ← upgradeConfig row.config topLevelTimeout
    return table.map fun r => if r.uuid = row.uuid then { r with config := config } else r

/-- **`upgrade`**, of the rows of `dird_profile_service`. -/
def upgrade (table : List ProfileService) : Except PyError (List ProfileService) :=
  table.foldlM upgradeRow table

/-- The options of a configuration are an object, or there are none. -/
def WellFormed (config : Fields) : Prop :=
  ∀ v, config.get? "options" = some v → v = .none ∨ ∃ l, v = .dict l

/-- What is under a key of the options. -/
def option? (config : Fields) (key : String) : Option Value :=
  match options config with
  | .dict l => Dict.lookup key l
  | _ => none

/-- **The timeout that is meant**: the one under the options, unless it is
null; else the one at the top. -/
def effectiveTimeout (config : Fields) : Value :=
  ((option? config "timeout").filter (· ≠ .none)).getD ((config.get? "timeout").getD .none)

/-- **A row is moved right**: only its configuration is another, without a
timeout at the top, with all other keys at the top and under the options as
they were; and the services read the timeout that was meant. -/
structure Moved (row row' : ProfileService) : Prop where
  columns : row' = { row with config := row'.config }
  top : row'.config.get? "timeout" = none
  others : ∀ key, key ≠ "timeout" → key ≠ "options" → row'.config.get? key = row.config.get? key
  options : ∀ key, key ≠ "timeout" → option? row'.config key = option? row.config key
  read : readTimeout row'.config = .ok (effectiveTimeout row.config)

/-- **The upgrade preserves the timeouts**: it raises nothing, moves every row
right, and changes nothing the second time. -/
def Preserves (table : List ProfileService) : Prop :=
  ∃ table', upgrade table = .ok table' ∧ upgrade table' = .ok table' ∧
    List.Forall₂ Moved table table'

/-- The timeout of a configuration is lost: one at the top, and null under the
options. -/
def Loses (config : Fields) : Prop :=
  option? config "timeout" = some .none ∧ ∃ v, config.get? "timeout" = some v ∧ v ≠ .none

/-! ## One configuration -/

section

variable {config config' : Fields} {key : String} {v topLevelTimeout : Value}
  {l : List (String × Value)} {table table' pre rows : List ProfileService}
  {row : ProfileService}

/-- The options of a well-formed configuration. -/
theorem WellFormed.exists_options (h : WellFormed config) : ∃ l, options config = .dict l := by
  unfold options
  cases hget : config.get? "options" with
  | none => exact ⟨[], rfl⟩
  | some v =>
    rcases h v hget with rfl | ⟨l, rfl⟩
    · exact ⟨[], rfl⟩
    · cases l with
      | nil => exact ⟨[], rfl⟩
      | cons e l => exact ⟨e :: l, rfl⟩

/-- A key that is found first is the one looked up. -/
theorem find?_eq_lookup (key : String) (l : List (String × Value)) :
    (l.find? (·.1 = key)).map Prod.snd = Dict.lookup key l := by
  induction l with
  | nil => rfl
  | cons e l ih =>
    rw [List.find?_cons, Dict.lookup]
    by_cases he : e.1 = key
    · simp [he]
    · simp [he, ih]

/-- What is under a key of options that are an object. -/
theorem option?_eq (h : options config = .dict l) (key : String) :
    option? config key = Dict.lookup key l := by
  rw [option?, h]

/-- What the services read is what is under the options. -/
theorem readTimeout_eq (h : options config = .dict l) :
    readTimeout config = .ok ((option? config "timeout").getD .none) := by
  rw [readTimeout, option?_eq h, h, Value.get, find?_eq_lookup]

/-- A key is there when something is under it. -/
theorem mem_iff_lookup {l : List (String × Value)} :
    key ∈ l.map Prod.fst ↔ ∃ v, Dict.lookup key l = some v := by
  induction l with
  | nil => simp [Dict.lookup]
  | cons e l ih =>
    rw [List.map_cons, List.mem_cons, Dict.lookup, ih]
    by_cases he : e.1 = key
    · simp [he]
    · simp [he, Ne.symm he]

/-- Options that are written are those there are. -/
theorem options_set (config : Fields) (l : List (String × Value)) :
    options (config.set "options" (.dict l)) = .dict l := by
  rw [options, Dict.get?_set_self]
  cases l <;> rfl

/-- The options that are written, of an object. -/
def writtenOptions (l : List (String × Value)) (topLevelTimeout : Value) :
    List (String × Value) :=
  if "timeout" ∈ l.map Prod.fst then l else Dict.write "timeout" topLevelTimeout l

/-- The configuration that is written with them. -/
def written (config : Fields) (l : List (String × Value)) (topLevelTimeout : Value) : Fields :=
  (config.erase "timeout").set "options" (.dict (writtenOptions l topLevelTimeout))

/-- **What the upgrade writes**, of options that are an object. -/
theorem upgradeConfig_eq (h : options config = .dict l) :
    upgradeConfig config topLevelTimeout = .ok (written config l topLevelTimeout) := by
  have herase : options (config.erase "timeout") = .dict l := by
    rw [← h, options, options, Dict.get?_erase, if_neg (by decide)]
  simp only [upgradeConfig, herase, Value.setNew]
  rfl

/-- What is under the timeout of the options that are written. -/
theorem lookup_written : Dict.lookup "timeout" (writtenOptions l topLevelTimeout) =
    some ((Dict.lookup "timeout" l).getD topLevelTimeout) := by
  unfold writtenOptions
  by_cases hmem : "timeout" ∈ l.map Prod.fst
  · obtain ⟨v, hv⟩ := mem_iff_lookup.1 hmem
    rw [if_pos hmem, hv, Option.getD_some]
  · have hnone : Dict.lookup "timeout" l = none := by
      rw [Option.eq_none_iff_forall_ne_some]
      exact fun v hv => hmem (mem_iff_lookup.2 ⟨v, hv⟩)
    rw [if_neg hmem, Dict.lookup_write, if_pos rfl, hnone, Option.getD_none]

/-- What is read is meant, when a timeout is written under the options. -/
theorem getD_eq_effective {own : Option Value} :
    own.getD v = (own.filter (· ≠ .none)).getD v ↔ ¬ (own = some .none ∧ v ≠ .none) := by
  cases own with
  | none => simp
  | some o =>
    by_cases ho : o = .none
    · simp [ho, Option.filter, eq_comm]
    · simp [ho, Option.filter]

/-- **When a row with a timeout at the top is moved right.** -/
theorem moved_iff (h : options row.config = .dict l)
    (htop : row.config.get? "timeout" = some topLevelTimeout) :
    Moved row { row with config := written row.config l topLevelTimeout } ↔
      ¬ Loses row.config := by
  have hlookup : ∀ key, option? row.config key = Dict.lookup key l := option?_eq h
  have hloses : Loses row.config ↔
      Dict.lookup "timeout" l = some .none ∧ topLevelTimeout ≠ .none := by
    simp [Loses, hlookup, htop]
  have hread : readTimeout (written row.config l topLevelTimeout) =
      .ok ((Dict.lookup "timeout" l).getD topLevelTimeout) := by
    rw [written, readTimeout_eq (options_set _ _), option?_eq (options_set _ _), lookup_written,
      Option.getD_some]
  have heffective : effectiveTimeout row.config =
      ((Dict.lookup "timeout" l).filter (· ≠ .none)).getD topLevelTimeout := by
    rw [effectiveTimeout, hlookup, htop, Option.getD_some]
  rw [hloses, ← getD_eq_effective]
  constructor
  · intro hmoved
    have hmeant := hmoved.read
    rw [hread, heffective] at hmeant
    exact Except.ok.inj hmeant
  · intro hmeant
    refine ⟨rfl, ?_, fun key htimeout hoptions => ?_, fun key htimeout => ?_, ?_⟩
    · rw [written, Dict.get?_set_of_ne _ _ (by decide), Dict.get?_erase, if_pos rfl]
    · rw [written, Dict.get?_set_of_ne _ _ (Ne.symm hoptions), Dict.get?_erase,
        if_neg (Ne.symm htimeout)]
    · change option? (written row.config l topLevelTimeout) key = _
      rw [written, option?_eq (options_set _ _), hlookup, writtenOptions]
      split
      · rfl
      · rw [Dict.lookup_write, if_neg (Ne.symm htimeout)]
    · rw [hread, heffective, hmeant]

/-- A row without a timeout at the top is right as it is. -/
theorem moved_self (hwell : WellFormed row.config) (htop : row.config.get? "timeout" = none) :
    Moved row row := by
  obtain ⟨l, hl⟩ := hwell.exists_options
  refine ⟨rfl, htop, fun _ _ _ => rfl, fun _ _ => rfl, ?_⟩
  rw [readTimeout_eq hl, effectiveTimeout, htop]
  cases option? row.config "timeout" with
  | none => rfl
  | some v =>
    by_cases hv : v = .none
    · simp [hv, Option.filter]
    · simp [hv, Option.filter]

/-! ## The table -/

/-- What the upgrade makes of a row. -/
def upgraded (row : ProfileService) : Except PyError ProfileService :=
  match row.config.get? "timeout" with
  | none => .ok row
  | some topLevelTimeout => do
    return { row with config := ← upgradeConfig row.config topLevelTimeout }

/-- It is another row of the same uuid. -/
theorem upgraded_uuid {row' : ProfileService} (h : upgraded row = .ok row') :
    row'.uuid = row.uuid := by
  unfold upgraded at h
  split at h
  · cases h
    rfl
  · obtain ⟨config, -, h⟩ := bind_eq_ok.1 h
    cases h
    rfl

/-- One turn of the loop changes the row it is about alone. -/
theorem upgradeRow_eq (hnodup : ((pre ++ row :: rows).map ProfileService.uuid).Nodup) :
    upgradeRow (pre ++ row :: rows) row =
      (upgraded row).map fun row' => pre ++ row' :: rows := by
  have hothers : ∀ r, r ∈ pre ∨ r ∈ rows → r.uuid ≠ row.uuid := by
    rw [List.map_append, List.map_cons, List.nodup_append] at hnodup
    obtain ⟨-, hcons, hdisjoint⟩ := hnodup
    rintro r (hr | hr)
    · exact hdisjoint _ (List.mem_map_of_mem hr) _ List.mem_cons_self
    · intro heq
      exact (List.nodup_cons.1 hcons).1 (heq ▸ List.mem_map_of_mem hr)
  unfold upgradeRow upgraded
  cases hget : row.config.get? "timeout" with
  | none => rfl
  | some topLevelTimeout =>
    cases hconfig : upgradeConfig row.config topLevelTimeout with
    | error e => simp [hconfig, bind, Except.bind, Except.map]
    | ok config =>
      have hkeep : ∀ l : List ProfileService, (∀ r ∈ l, r.uuid ≠ row.uuid) →
          l.map (fun r => if r.uuid = row.uuid then { r with config := config } else r) = l := by
        intro l hl
        refine (List.map_congr_left fun r hr => ?_).trans (List.map_id l)
        exact if_neg (hl r hr)
      simp only [hconfig, bind, Except.bind, Except.map, pure, Except.pure, List.map_append,
        List.map_cons, if_true, hkeep pre fun r hr => hothers r (Or.inl hr),
        hkeep rows fun r hr => hothers r (Or.inr hr)]

/-- **The upgrade takes every row to what it makes of it.** -/
theorem upgrade_eq (hnodup : (table.map ProfileService.uuid).Nodup) :
    upgrade table = table.mapM upgraded := by
  -- the rows before are as the loop left them, and of their uuids
  have hloop : ∀ rows pre : List ProfileService,
      ((pre ++ rows).map ProfileService.uuid).Nodup →
      rows.foldlM upgradeRow (pre ++ rows) = (rows.mapM upgraded).map (pre ++ ·) := by
    intro rows
    induction rows with
    | nil =>
      intro pre _
      rfl
    | cons row rows ih =>
      intro pre hnodup
      rw [List.foldlM_cons, upgradeRow_eq hnodup, List.mapM_cons]
      cases hrow : upgraded row with
      | error e => rfl
      | ok row' =>
        have huuid : row'.uuid = row.uuid := upgraded_uuid hrow
        have hnodup' : (((pre ++ [row']) ++ rows).map ProfileService.uuid).Nodup := by
          simpa [huuid] using hnodup
        have hrest := ih (pre ++ [row']) hnodup'
        rw [List.append_assoc, List.singleton_append] at hrest
        change rows.foldlM upgradeRow (pre ++ row' :: rows) = _
        rw [hrest]
        cases rows.mapM upgraded with
        | error e => rfl
        | ok rows' => exact congrArg Except.ok (by simp)
  have h := hloop table [] hnodup
  rw [List.nil_append] at h
  rw [upgrade, h]
  cases table.mapM upgraded <;> rfl

/-- **One row is upgraded**: no timeout is left at its top, and it is moved right
unless its timeout is lost. -/
theorem upgraded_spec (hwell : WellFormed row.config) : ∃ row', upgraded row = .ok row' ∧
    row'.config.get? "timeout" = none ∧ (Moved row row' ↔ ¬ Loses row.config) := by
  cases htop : row.config.get? "timeout" with
  | none =>
    have hkept : ¬ Loses row.config := by
      rintro ⟨-, v, hv, -⟩
      cases htop.symm.trans hv
    exact ⟨row, by rw [upgraded, htop], htop, iff_of_true (moved_self hwell htop) hkept⟩
  | some topLevelTimeout =>
    obtain ⟨l, hl⟩ := hwell.exists_options
    refine ⟨{ row with config := written row.config l topLevelTimeout }, ?_, ?_,
      moved_iff hl htop⟩
    · rw [upgraded, htop]
      simp only [upgradeConfig_eq hl]
      rfl
    · change (written row.config l topLevelTimeout).get? "timeout" = none
      rw [written, Dict.get?_set_of_ne _ _ (by decide), Dict.get?_erase, if_pos rfl]

end

/-- **When the upgrade preserves the timeouts**: no row has one at the top and a
null one under its options. -/
theorem preserves_iff (table : List ProfileService)
    (hnodup : (table.map ProfileService.uuid).Nodup)
    (hwell : ∀ row ∈ table, WellFormed row.config) :
    Preserves table ↔ ∀ row ∈ table, ¬ Loses row.config := by
  -- what is made of each row, chosen row by row
  choose! after hafter htop hmoved using fun row hrow => upgraded_spec (hwell row hrow)
  have hupgrade : upgrade table = .ok (table.map after) := by
    rw [upgrade_eq hnodup]
    exact mapM_eq_ok_map hafter
  have huuids : (table.map after).map ProfileService.uuid = table.map ProfileService.uuid := by
    rw [List.map_map]
    exact List.map_congr_left fun row hrow => upgraded_uuid (hafter row hrow)
  have hagain : upgrade (table.map after) = .ok (table.map after) := by
    have hsame : ∀ row ∈ table.map after, upgraded row = .ok (id row) := by
      intro row hrow
      obtain ⟨row₀, hrow₀, rfl⟩ := List.mem_map.1 hrow
      rw [upgraded, htop row₀ hrow₀]
      rfl
    rw [upgrade_eq (huuids ▸ hnodup), mapM_eq_ok_map hsame, List.map_id]
  have hiff : List.Forall₂ Moved table (table.map after) ↔ ∀ row ∈ table, ¬ Loses row.config := by
    rw [List.forall₂_map_right_iff, List.forall₂_same]
    exact forall₂_congr hmoved
  constructor
  · rintro ⟨table', htable', -, hrows⟩
    cases htable'.symm.trans hupgrade
    exact hiff.1 hrows
  · intro hkept
    exact ⟨_, hupgrade, hagain, hiff.2 hkept⟩

/-! ## A null timeout -/

/-- A service with a timeout at the top of its configuration, and options. -/
def serviceWith (options : List (String × Value)) : ProfileService where
  uuid := "1"
  profileUuid := "p"
  profileTenantUuid := "t"
  serviceUuid := "s"
  config := Dict.ofList [("timeout", .int 2), ("options", .dict options)]

/-- Without a timeout under the options the one at the top is kept. -/
theorem preserves_serviceWith_nil : Preserves [serviceWith []] := by
  refine (preserves_iff [serviceWith []] (by decide) fun row hrow v hv => ?_).2 fun row hrow => ?_
  · rw [List.mem_singleton.1 hrow] at hv
    exact Or.inr ⟨[], (Option.some.inj hv).symm⟩
  · rw [List.mem_singleton.1 hrow]
    rintro ⟨hnull, -⟩
    cases hnull

/-- **A null timeout under the options hides the one at the top.** -/
theorem not_preserves_of_null : ¬ Preserves [serviceWith [("timeout", .none)]] := by
  rintro ⟨table', htable', -, hrows⟩
  cases htable'
  have hread := (List.forall₂_cons.1 hrows).1.read
  revert hread
  decide

end ServiceTimeout

end WazoDird
