import Mathlib.Data.List.Pairwise
import WazoDird.PersonalContacts.Returned

/-!
# What an import accounts for

Rows with one hash are created once, as the last of them is, and the id is
given to that row: the rows before it are returned as they were. So a row
that a later one repeats has an id only when it came with the right one.
`accounts_iff` says which documents are accounted for in full.
-/

namespace WazoDird

open PersonalContactCRUD PersonalContacts

namespace PersonalImport

variable {enc : Encoding} {server : PersonalServer} {o : RowOrder ContactFields}
  {db db' : Database} {tenantUuid userUuid : Uuid} {info later : TextInfo}
  {infos created : List TextInfo} {uuids : Dict String Uuid} {c : Contact} {n : ℕ}

/-! ## When a batch accounts for its rows -/

/-- The id under which the row that stands for a hash is kept: that of the
contact the user has, or else its own. -/
def StandingId (enc : Encoding) (db : Database) (userUuid : Uuid) (info : TextInfo) (id : String) :
    Prop :=
  (∃ c, StoredUnder db userUuid (hashOf enc info) c ∧ c.uuid = id) ∨
    (New enc db userUuid info ∧ ownId info = some id)

/-- **Two rows can be imported together**, one after the other: if they have
one hash, they have the same fields, and the first comes with the id that
the second is kept under; if they have not, and both are new, they have not
one id of their own. -/
structure Compatible (enc : Encoding) (db : Database) (userUuid : Uuid) (info later : TextInfo) :
    Prop where
  repeated : hashOf enc info = hashOf enc later →
    ∃ id, StandingId enc db userUuid later id ∧ info.Same (later.set "id" id)
  apart : hashOf enc info ≠ hashOf enc later → New enc db userUuid info →
    New enc db userUuid later → ApartIds info later

/-- **What a batch accounts for**: rows that are new can be written, those
of a hash that the user has are the contact's fields, and any two can be
imported together. -/
structure Importable (enc : Encoding) (db : Database) (userUuid : Uuid) (infos : List TextInfo) :
    Prop where
  writable : ∀ info ∈ infos, New enc db userUuid info → Writable db info
  agrees : ∀ info ∈ infos, ∀ c, StoredUnder db userUuid (hashOf enc info) c →
    (shown db c.uuid).Same ((info.set "id" c.uuid).map some)
  compatible : infos.Pairwise (Compatible enc db userUuid)

section Required

variable (hleft : Left enc server db db' userUuid infos uuids)
  (hall : List.Forall₂ (Returned o db' userUuid) infos (setIds enc uuids infos))

include hleft hall

/-- A row that a later one repeats came with the id of a contact. -/
theorem exists_shows_of_repeated {rest : List TextInfo} (hsuffix : (info :: rest) <:+ infos)
    (hlater : ∃ other ∈ rest, hashOf enc other = hashOf enc info) :
    ∃ c, Shows db' userUuid info c ∧ info.get? "id" = some c.uuid :=
  (returned_iff hleft.kept hleft.user).1 ((forall₂_setIds.1 hall info rest hsuffix).1 hlater)

/-- A row that none repeats and that is new has the contact written for
it. -/
theorem exists_shows_of_written {rest : List TextInfo} (hsuffix : (info :: rest) <:+ infos)
    (hlast : ∀ other ∈ rest, hashOf enc other ≠ hashOf enc info)
    (hnew : New enc db userUuid info) : ∃ c, Shows db' userUuid info c ∧
      WrittenAs server info c.uuid ∧ ∀ d ∈ db.contacts, d.uuid ≠ c.uuid := by
  obtain ⟨uuid, c, hget, hwritten, hstands, hfresh⟩ := hleft.written info rest hsuffix hlast hnew
  have hreturned := (forall₂_setIds.1 hall info rest hsuffix).2 hlast
  rw [hget] at hreturned
  obtain ⟨d, hshows, hid⟩ := (returned_iff hleft.kept hleft.user).1 hreturned
  rw [Option.elim_some, Dict.get?_set_self] at hid
  obtain rfl := Option.some.inj hid
  -- it is the contact that was written
  have heq := hshows.unique hleft.kept hstands.mem hstands.user hstands.hash
  subst heq
  exact ⟨c, hshows, hwritten, hfresh⟩

/-- Every row has a contact that shows it. -/
theorem exists_shows (hinfo : info ∈ infos) : ∃ c, Shows db' userUuid info c := by
  obtain ⟨rest, hsuffix⟩ := exists_suffix_of_mem hinfo
  have hrow := forall₂_setIds.1 hall info rest hsuffix
  by_cases hlater : ∃ other ∈ rest, hashOf enc other = hashOf enc info
  · obtain ⟨c, hshows, -⟩ := (returned_iff hleft.kept hleft.user).1 (hrow.1 hlater)
    exact ⟨c, hshows⟩
  · obtain ⟨c, hshows, -⟩ := (returned_iff hleft.kept hleft.user).1
      (hrow.2 fun other hother heq => hlater ⟨other, hother, heq⟩)
    exact ⟨c, hshows⟩

/-- The contact that shows a new row was written for the last of its
hash. -/
theorem exists_written (hinfo : info ∈ infos) (hnew : New enc db userUuid info)
    (hshows : Shows db' userUuid info c) : ∃ last ∈ infos, hashOf enc last = hashOf enc info ∧
      Shows db' userUuid last c ∧ WrittenAs server last c.uuid ∧
        ∀ d ∈ db.contacts, d.uuid ≠ c.uuid := by
  obtain ⟨last, rest, hsuffix, hkey, hlast⟩ :=
    exists_last (k := hashOf enc info) ⟨info, hinfo, rfl⟩
  have hnew' : New enc db userUuid last := by
    rw [New, hkey]
    exact hnew
  obtain ⟨d, hd, hwritten, hfresh⟩ := exists_shows_of_written hleft hall hsuffix
    (by rw [hkey]; exact hlast) hnew'
  have heq := hshows.unique hleft.kept hd.mem hd.user ((hd.hash hleft.kept).trans hkey)
  subst heq
  exact ⟨last, hsuffix.subset List.mem_cons_self, hkey, hd, hwritten, hfresh⟩

/-- **The id of its own that a new row has** is that of its contact. -/
theorem own_of_shows (hinfo : info ∈ infos) (hnew : New enc db userUuid info)
    (hshows : Shows db' userUuid info c) {id : String} (hown : ownId info = some id) :
    c.uuid = id := by
  obtain ⟨rest, hsuffix⟩ := exists_suffix_of_mem hinfo
  by_cases hlater : ∃ other ∈ rest, hashOf enc other = hashOf enc info
  · obtain ⟨d, hd, hid⟩ := exists_shows_of_repeated hleft hall hsuffix hlater
    have heq := hshows.unique hleft.kept hd.mem hd.user (hd.hash hleft.kept)
    rw [get?_of_ownId hown] at hid
    rw [← heq]
    exact (Option.some.inj hid).symm
  · obtain ⟨d, hd, hwritten, -⟩ := exists_shows_of_written hleft hall hsuffix
      (fun other hother heq => hlater ⟨other, hother, heq⟩) hnew
    have heq := hshows.unique hleft.kept hd.mem hd.user (hd.hash hleft.kept)
    rw [← heq]
    exact hwritten.own id hown

/-- A new row has no null character. -/
theorem noNull_of_shows (hinfo : info ∈ infos) (hnew : New enc db userUuid info)
    (hshows : Shows db' userUuid info c) : NoNull info := by
  obtain ⟨last, hlast, -, hshows', hwritten, -⟩ := exists_written hleft hall hinfo hnew hshows
  -- with its id replaced it is what was written
  have hset : NoNull (info.set "id" c.uuid) := fun e he =>
    hwritten.noNull e ((hshows.same hshows').mem_iff.1 he)
  obtain ⟨hother, huuid⟩ := noNull_set_iff.1 hset
  intro e he
  by_cases hkey : e.1 = "id"
  · rw [hkey]
    refine ⟨by decide, ?_⟩
    by_cases hempty : e.2 = ""
    · rw [hempty]
      decide
    · have hown : ownId info = some e.2 := by
        rw [ownId, Dict.get?_eq_some_iff.2 (hkey ▸ he : ("id", e.2) ∈ info.entries)]
        simp [hempty]
      rwa [← own_of_shows hleft hall hinfo hnew hshows hown]
  · exact hother e he hkey

/-- **The id under which a repeated row stands** is the one that an earlier
row came with. -/
theorem standingId_of_shows (hserves : Serves server n infos) {rest : List TextInfo}
    (hsuffix : (info :: rest) <:+ infos) (hlater : later ∈ rest)
    (hhash : hashOf enc info = hashOf enc later) (hshows : Shows db' userUuid info c)
    (hid : info.get? "id" = some c.uuid) : StandingId enc db userUuid later c.uuid := by
  have hmem : later ∈ infos := hsuffix.subset (List.mem_cons_of_mem _ hlater)
  have hinfo : info ∈ infos := hsuffix.subset List.mem_cons_self
  by_cases hstored : ∃ d, StoredUnder db userUuid (hashOf enc later) d
  · obtain ⟨d, hd⟩ := hstored
    have heq := hshows.unique hleft.kept (hleft.contacts d hd.mem) hd.user
      (hd.hash.trans hhash.symm)
    exact .inl ⟨d, hd, congrArg Contact.uuid heq⟩
  · have hnew : New enc db userUuid later := fun d hd => hstored ⟨d, hd⟩
    obtain ⟨d, hd⟩ := exists_shows hleft hall hmem
    have heq := hshows.unique hleft.kept hd.mem hd.user
      ((hd.hash hleft.kept).trans hhash.symm)
    subst heq
    -- no uuid of the server is an id of the batch
    have howned : ∀ {last}, WrittenAs server last d.uuid → ownId last = some d.uuid := by
      intro last hwritten
      cases hown : ownId last with
      | none =>
        obtain ⟨uuids, hmade⟩ := hwritten.made hown
        exact absurd hid (hserves.fresh uuids _ hmade info hinfo)
      | some id => rw [hwritten.own id hown]
    refine .inr ⟨hnew, ?_⟩
    obtain ⟨last, -, -, -, hwritten, -⟩ := exists_written hleft hall hmem hnew hd
    have hne : d.uuid ≠ "" := by
      have hown := howned hwritten
      exact of_decide_eq_true (Option.filter_eq_some_iff.1 hown).2
    obtain ⟨rest', hsuffix'⟩ := exists_suffix_of_mem hmem
    by_cases hagain : ∃ other ∈ rest', hashOf enc other = hashOf enc later
    · obtain ⟨d', hd', hid'⟩ := exists_shows_of_repeated hleft hall hsuffix' hagain
      have heq := hd.unique hleft.kept hd'.mem hd'.user (hd'.hash hleft.kept)
      subst heq
      rw [ownId, hid']
      simp [hne]
    · obtain ⟨d', hd', hwritten', -⟩ := exists_shows_of_written hleft hall hsuffix'
        (fun other hother heq => hagain ⟨other, hother, heq⟩) hnew
      have heq := hd.unique hleft.kept hd'.mem hd'.user (hd'.hash hleft.kept)
      subst heq
      exact howned hwritten'

/-- **What a batch that accounts for its rows requires of them.** -/
theorem importable_of_returned (hserves : Serves server n infos) :
    Importable enc db userUuid infos := by
  refine ⟨fun info hinfo hnew => ?_, fun info hinfo c hc => ?_, pairwise_iff_suffix.2 ?_⟩
  · obtain ⟨c, hshows⟩ := exists_shows hleft hall hinfo
    refine ⟨noNull_of_shows hleft hall hinfo hnew hshows, fun id hown => ?_⟩
    obtain ⟨last, -, -, -, -, hfresh⟩ := exists_written hleft hall hinfo hnew hshows
    rw [← own_of_shows hleft hall hinfo hnew hshows hown]
    obtain ⟨-, -, -, hlength⟩ := exists_shown hleft.kept hshows.mem (by rw [hshows.user]; rfl)
    exact ⟨hlength, hfresh⟩
  · obtain ⟨d, hshows⟩ := exists_shows hleft hall hinfo
    have heq := hshows.unique hleft.kept (hleft.contacts c hc.mem) hc.user hc.hash
    subst heq
    rw [← hleft.fields c hc.mem]
    exact hshows.fields
  · intro info rest hsuffix later hlater
    have hinfo : info ∈ infos := hsuffix.subset List.mem_cons_self
    have hmem : later ∈ infos := hsuffix.subset (List.mem_cons_of_mem _ hlater)
    refine ⟨fun hhash => ?_, fun hhash hnew hnew' id hown hown' => ?_⟩
    · obtain ⟨c, hshows, hid⟩ :=
        exists_shows_of_repeated hleft hall hsuffix ⟨later, hlater, hhash.symm⟩
      obtain ⟨d, hd⟩ := exists_shows hleft hall hmem
      have heq := hshows.unique hleft.kept hd.mem hd.user ((hd.hash hleft.kept).trans hhash.symm)
      subst heq
      exact ⟨d.uuid, standingId_of_shows hleft hall hserves hsuffix hlater hhash hshows hid,
        (same_set_self hid).symm.trans (hshows.same hd)⟩
    · obtain ⟨c, hshows⟩ := exists_shows hleft hall hinfo
      obtain ⟨d, hd⟩ := exists_shows hleft hall hmem
      have heq : c = d := eq_of_key hleft.kept.uuids hshows.mem hd.mem
        ((own_of_shows hleft hall hinfo hnew hshows hown).trans
          (own_of_shows hleft hall hmem hnew' hd hown').symm)
      subst heq
      exact hhash ((hshows.hash hleft.kept).symm.trans (hd.hash hleft.kept))

end Required

/-! ## What is enough -/

/-- Ids are apart both ways. -/
theorem Importable.apartIds (h : Importable enc db userUuid infos) (hinfo : info ∈ infos)
    (hlater : later ∈ infos) (hhash : hashOf enc info ≠ hashOf enc later)
    (hnew : New enc db userUuid info) (hnew' : New enc db userUuid later) :
    ApartIds info later := by
  have hpair : infos.Pairwise fun a b => hashOf enc a ≠ hashOf enc b → New enc db userUuid a →
      New enc db userUuid b → ApartIds a b := h.compatible.imp fun hab => hab.apart
  have : Std.Symm fun a b : TextInfo => hashOf enc a ≠ hashOf enc b → New enc db userUuid a →
      New enc db userUuid b → ApartIds a b :=
    ⟨fun a b hab hne ha hb id hown hown' => hab hne.symm hb ha id hown' hown⟩
  exact hpair.forall hinfo hlater (fun heq => hhash (congrArg _ heq)) hhash hnew hnew'

/-- There are no more contacts to add than rows. -/
theorem length_toAdd_le : (toAdd enc server db userUuid infos).length ≤ infos.length := by
  have hsub : (toAdd enc server db userUuid infos).map Prod.fst ⊆ infos.map (hashOf enc) := by
    intro hash hmem
    obtain ⟨e, he, rfl⟩ := List.mem_map.1 hmem
    obtain ⟨hinfo, hhash⟩ := mem_hashAndContact (List.mem_filter.1 he).1
    exact List.mem_map.2 ⟨e.2, hinfo, hhash.symm⟩
  have hle := (List.subperm_of_subset nodup_toAdd hsub).length_le
  rwa [List.length_map, List.length_map] at hle

/-- **Rows that can be imported are**: the batch does not raise. -/
theorem Importable.exists_create (h : Importable enc db userUuid infos)
    (hkept : Kept enc (fun _ => True) db)
    (hserves : Serves server (db.contacts.length + infos.length) infos) :
    ∃ created db', createPersonalContacts enc server db tenantUuid userUuid infos =
      (.ok created, db') := by
  obtain ⟨hcontacts, -⟩ := getDirdUser_contacts db tenantUuid userUuid
  have hkept' : Kept enc (fun _ => True) (db.getDirdUser tenantUuid userUuid) :=
    hkept.write (.user tenantUuid)
  have hentries : ∀ e ∈ (server.hashes.order (toAdd enc server
      (db.getDirdUser tenantUuid userUuid) userUuid infos)).zipIdx,
        e.1.2 ∈ infos ∧ e.1.1 = hashOf enc e.1.2 ∧ New enc db userUuid e.1.2 := by
    intro e he
    obtain ⟨hentry, hhash, hnew⟩ := (mem_toAdd hkept').1 (mem_of_mem_zipIdx he)
    exact ⟨(mem_hashAndContact hentry).1, hhash,
      fun c hc => hnew c ⟨hcontacts.symm ▸ hc.mem, hc.user, hc.hash⟩⟩
  have hroom : (db.getDirdUser tenantUuid userUuid).contacts.length +
      (server.hashes.order (toAdd enc server (db.getDirdUser tenantUuid userUuid) userUuid
        infos)).zipIdx.length ≤ db.contacts.length + infos.length := by
    rw [hcontacts, List.length_zipIdx, (server.hashes.perm _).length_eq]
    exact Nat.add_le_add_left length_toAdd_le _
  have hwritable : ∀ e ∈ (server.hashes.order (toAdd enc server
      (db.getDirdUser tenantUuid userUuid) userUuid infos)).zipIdx,
        Writable (db.getDirdUser tenantUuid userUuid) e.1.2 := by
    intro e he
    obtain ⟨hinfo, -, hnew⟩ := hentries e he
    obtain ⟨hnull, hown⟩ := h.writable _ hinfo hnew
    exact ⟨hnull, fun id hid => ⟨(hown id hid).1, fun c hc => (hown id hid).2 c (hcontacts ▸ hc)⟩⟩
  have hhashes : ∀ e ∈ (server.hashes.order (toAdd enc server
      (db.getDirdUser tenantUuid userUuid) userUuid infos)).zipIdx,
        ∀ c ∈ (db.getDirdUser tenantUuid userUuid).contacts, c.userUuid = some userUuid →
          c.hash ≠ e.1.1 := by
    intro e he c hc hu heq
    obtain ⟨-, hhash, hnew⟩ := hentries e he
    exact hnew c ⟨hcontacts ▸ hc, hu, heq.trans hhash⟩
  have hapart : (server.hashes.order (toAdd enc server (db.getDirdUser tenantUuid userUuid)
      userUuid infos)).zipIdx.Pairwise fun e e' => e.1.1 ≠ e'.1.1 ∧ ApartIds e.1.2 e'.1.2 := by
    refine (List.pairwise_map.1 nodup_zipIdx_toAdd).imp_of_mem fun {e e'} he he' hne => ⟨hne, ?_⟩
    obtain ⟨hinfo, hhash, hnew⟩ := hentries e he
    obtain ⟨hinfo', hhash', hnew'⟩ := hentries e' he'
    refine h.apartIds hinfo hinfo' (fun heq => hne ?_) hnew hnew'
    rw [hhash, hhash', heq]
  obtain ⟨s, hloop⟩ := @exists_loop enc server userUuid
    { db := db.getDirdUser tenantUuid userUuid } _ _ _ hserves (fun e he => (hentries e he).1)
    hroom hwritable hhashes hapart
  exact ⟨_, _, createPersonalContacts_eq_ok.2 ⟨s, hloop, rfl, rfl⟩⟩

/-- **The last row of a hash** is shown by a contact, whose id it is
returned with and stands under. -/
theorem Importable.shows_last (h : Importable enc db userUuid infos)
    (hleft : Left enc server db db' userUuid infos uuids) {rest : List TextInfo}
    (hsuffix : (info :: rest) <:+ infos)
    (hlast : ∀ other ∈ rest, hashOf enc other ≠ hashOf enc info) :
    ∃ c, Shows db' userUuid info c ∧ uuids.get? (hashOf enc info) = some c.uuid ∧
      ∀ id, StandingId enc db userUuid info id → c.uuid = id := by
  have hinfo : info ∈ infos := hsuffix.subset List.mem_cons_self
  by_cases hstored : ∃ c, StoredUnder db userUuid (hashOf enc info) c
  · obtain ⟨c, hc⟩ := hstored
    have hshows : Shows db' userUuid info c :=
      ⟨hleft.contacts c hc.mem, hc.user, by
        rw [hleft.fields c hc.mem]
        exact h.agrees info hinfo c hc⟩
    refine ⟨c, hshows, hleft.stored info hinfo c hc, ?_⟩
    rintro id (⟨d, hd, rfl⟩ | ⟨hnew, -⟩)
    · exact congrArg Contact.uuid
        (hshows.unique hleft.kept (hleft.contacts d hd.mem) hd.user hd.hash).symm
    · exact absurd hc (hnew c)
  · have hnew : New enc db userUuid info := fun c hc => hstored ⟨c, hc⟩
    obtain ⟨uuid, c, hget, hwritten, hstands, -⟩ := hleft.written info rest hsuffix hlast hnew
    -- the column keeps the id as it was written
    have hlength : uuid.toList.length ≤ 38 := by
      cases hown : ownId info with
      | none =>
        obtain ⟨made, hmade⟩ := hwritten.made hown
        exact length_of_stringColumn hmade
      | some id =>
        rw [hwritten.own id hown]
        exact ((h.writable info hinfo hnew).own id hown).1
    have huuid : c.uuid = uuid :=
      (Except.ok.inj ((stringColumn_of_length_le hlength).symm.trans hstands.row)).symm
    have hfields := shown_same hstands.fields
    rw [← huuid] at hget hfields
    refine ⟨c, ⟨hstands.mem, hstands.user, hfields⟩, hget, ?_⟩
    rintro id (⟨d, hd, -⟩ | ⟨-, hown⟩)
    · exact absurd hd (hnew d)
    · exact huuid.trans (hwritten.own id hown)

/-- **Rows that can be imported are returned.** -/
theorem Importable.returned (h : Importable enc db userUuid infos)
    (hleft : Left enc server db db' userUuid infos uuids) :
    List.Forall₂ (Returned o db' userUuid) infos (setIds enc uuids infos) := by
  refine forall₂_setIds.2 fun info rest hsuffix => ⟨?_, fun hlast => ?_⟩
  · rintro ⟨other, hother, hhash⟩
    -- the last row of the hash, which comes after this one
    obtain ⟨last, rest', hsuffix', hkey, hlast⟩ :=
      exists_last (k := hashOf enc info) ⟨other, hother, hhash⟩
    have hlater : last ∈ rest := hsuffix'.subset List.mem_cons_self
    obtain ⟨id, hstanding, hsame⟩ :=
      (pairwise_iff_suffix.1 h.compatible info rest hsuffix last hlater).repeated hkey.symm
    obtain ⟨c, hshows, -, hstands⟩ := h.shows_last hleft
      (hsuffix'.trans ((List.suffix_cons info rest).trans hsuffix)) (by rw [hkey]; exact hlast)
    have hid : info.get? "id" = some c.uuid := by
      rw [Dict.same_iff.1 hsame, Dict.get?_set_self, hstands id hstanding]
    have hfields : (last.set "id" c.uuid).Same (info.set "id" c.uuid) := by
      rw [hstands id hstanding] at hid ⊢
      exact hsame.symm.trans (same_set_self hid).symm
    refine (returned_iff hleft.kept hleft.user).2 ⟨c, ⟨hshows.mem, hshows.user, ?_⟩, hid⟩
    exact hshows.fields.trans (hfields.map _)
  · obtain ⟨c, hshows, hget, -⟩ := h.shows_last hleft hsuffix hlast
    rw [hget]
    exact (returned_iff hleft.kept hleft.user).2 ⟨c, hshows, Dict.get?_set_self _ _ _⟩

/-- **When a batch accounts for its rows.** -/
theorem batch_iff (hkept : Kept enc (fun _ => True) db)
    (hserves : Serves server (db.contacts.length + infos.length) infos) :
    (∃ created db', createPersonalContacts enc server db tenantUuid userUuid infos =
        (.ok created, db') ∧ List.Forall₂ (Returned o db' userUuid) infos created) ↔
      Importable enc db userUuid infos := by
  constructor
  · rintro ⟨created, db', hcreate, hall⟩
    obtain ⟨uuids, rfl, hleft⟩ := left_of_createPersonalContacts hkept hserves hcreate
    exact importable_of_returned hleft hall hserves
  · intro h
    obtain ⟨created, db', hcreate⟩ :=
      @Importable.exists_create enc server db tenantUuid userUuid infos h hkept hserves
    obtain ⟨uuids, rfl, hleft⟩ := left_of_createPersonalContacts hkept hserves hcreate
    exact ⟨_, db', hcreate, h.returned hleft⟩

/-! ## A document -/

section Document

variable {w : ImportWorld} {csvDocument : String} {rows : List ImportRow}
  {existing : List (Option String)}

/-- The contacts that a document has created. -/
def imported (w : ImportWorld) (db : Database) (csvDocument : String) : List TextInfo :=
  match reader csvDocument, PersonalService.existingContactUuids w db with
  | .ok rows, .ok existing => PersonalService.accepted existing rows
  | _, _ => []

/-- The ids of all contacts can be listed. -/
theorem exists_existingContactUuids (w : ImportWorld) (db : Database) :
    ∃ existing, PersonalService.existingContactUuids w db = .ok existing :=
  ⟨_, bind_eq_ok.2 ⟨_, bind_eq_ok.2 ⟨(), raiseIf_ok.2 (by decide), bind_eq_ok.2 ⟨(),
    raiseIf_ok.2 (by decide), bind_eq_ok.2 ⟨(), raiseIf_ok.2 (by decide), bind_eq_ok.2 ⟨(),
      raiseIf_ok.2 (by simp), rfl⟩⟩⟩⟩, rfl⟩⟩

/-- Each row that is refused is reported with its line. -/
theorem forall₂_report : List.Forall₂ (fun (row : ImportRow) r => r.line = row.1)
    (rows.filter fun row => !PersonalService.passes existing row)
    (rows.filterMap (PersonalService.report existing)) := by
  induction rows with
  | nil => exact .nil
  | cons row rows ih =>
    cases hcheck : PersonalService.checkRow existing row.2 with
    | ok x =>
      rw [List.filter_cons_of_neg (by simp [PersonalService.passes, hcheck, Except.toBool]),
        List.filterMap_cons_none (by simp [PersonalService.report, hcheck])]
      exact ih
    | error e =>
      rw [List.filter_cons_of_pos (by simp [PersonalService.passes, hcheck, Except.toBool]),
        List.filterMap_cons_some (b := ⟨e.errors, row.1⟩) (by simp [PersonalService.report, hcheck])]
      exact .cons rfl ih

/-- **An import, by its batch.** -/
theorem createContacts_eq_ok (hexisting : PersonalService.existingContactUuids w db = .ok existing)
    {reported : List PersonalService.ReportedError} :
    PersonalService.createContacts w db tenantUuid userUuid (.ok rows) =
        (.ok (created, reported), db') ↔
      createPersonalContacts w.enc w.server db tenantUuid userUuid
          (PersonalService.accepted existing rows) = (.ok created, db') ∧
        rows.filterMap (PersonalService.report existing) = reported := by
  unfold PersonalService.createContacts
  rw [hexisting]
  dsimp only
  generalize createPersonalContacts w.enc w.server db tenantUuid userUuid
    (PersonalService.accepted existing rows) = outcome
  obtain ⟨result, db''⟩ := outcome
  cases result with
  | error e =>
    constructor
    · intro h
      cases h
    · rintro ⟨h, -⟩
      cases h
  | ok x =>
    constructor
    · intro h
      cases h
      exact ⟨rfl, rfl⟩
    · rintro ⟨h, rfl⟩
      cases h
      rfl

/-- **When an import accounts for every row.** -/
theorem accounts_iff (hkept : Kept w.enc (fun _ => True) db)
    (hserves : Serves w.server (db.contacts.length + (imported w db csvDocument).length)
      (imported w db csvDocument)) :
    Accounts w o db tenantUuid userUuid csvDocument ↔
      (∃ rows, reader csvDocument = .ok rows) ∧
        Importable w.enc db userUuid (imported w db csvDocument) := by
  obtain ⟨existing, hexisting⟩ := exists_existingContactUuids w db
  cases hread : reader csvDocument with
  | error e =>
    constructor
    · rintro ⟨rows, _, _, _, _, hrows, -⟩
      rw [hread] at hrows
      cases hrows
    · rintro ⟨⟨rows, hrows⟩, -⟩
      cases hrows
  | ok rows =>
    have himported : imported w db csvDocument = PersonalService.accepted existing rows := by
      rw [imported, hread, hexisting]
    rw [himported] at hserves ⊢
    rw [← @batch_iff w.enc w.server o db tenantUuid userUuid _ hkept hserves,
      and_iff_right ⟨rows, rfl⟩]
    constructor
    · rintro ⟨rows', existing', created, reported, db', hrows, hexisting', hcreate, -, hreturned⟩
      cases hread.symm.trans hrows
      cases hexisting.symm.trans hexisting'
      rw [hread] at hcreate
      exact ⟨created, db', ((createContacts_eq_ok hexisting).1 hcreate).1,
        List.forall₂_map_left_iff.2 hreturned⟩
    · rintro ⟨created, db', hcreate, hreturned⟩
      refine ⟨rows, existing, created, _, db', hread, hexisting, ?_, forall₂_report,
        List.forall₂_map_left_iff.1 hreturned⟩
      rw [hread]
      exact (createContacts_eq_ok hexisting).2 ⟨hcreate, rfl⟩

end Document

/-- Two uuids for the first two contacts. -/
def twoUuids (uuids : List Uuid) : Uuid :=
  if "x" ∉ uuids then "x" else if "y" ∉ uuids then "y" else longerUuid uuids

theorem twoUuids_not_mem (uuids : List Uuid) : twoUuids uuids ∉ uuids := by
  unfold twoUuids
  split
  · assumption
  · split
    · assumption
    · exact longerUuid_not_mem uuids

/-- An import of two contacts. -/
def smallImport : ImportWorld where
  enc := Encoding.plain
  server := { newUuid := twoUuids, newUuid_not_mem := twoUuids_not_mem }
  text := ⟨id, id⟩
  uuids := .asStored
  fields := .asStored

/-- It has two of them. -/
theorem newUuid_small {uuids : List Uuid} (h : uuids.length < 2) :
    smallImport.server.newUuid uuids = "x" ∨ smallImport.server.newUuid uuids = "y" := by
  show twoUuids uuids = "x" ∨ twoUuids uuids = "y"
  unfold twoUuids
  match uuids with
  | [] => exact .inl rfl
  | [uuid] =>
    by_cases hx : "x" ∉ [uuid]
    · exact .inl (if_pos hx)
    · refine .inr ?_
      have huuid : uuid = "x" := by simpa [eq_comm] using hx
      subst huuid
      decide
  | _ :: _ :: _ => exact absurd h (by simp)

/-- It serves two contacts without an id. -/
theorem serves_small {infos : List TextInfo} (hinfos : ∀ info ∈ infos, info.get? "id" = none) :
    Serves smallImport.server 2 infos where
  noFault _ := ⟨rfl, rfl⟩
  fits uuids h := by
    rcases newUuid_small h with heq | heq <;> rw [heq] <;> decide
  plain uuids h := by
    rcases newUuid_small h with heq | heq <;> rw [heq] <;> decide
  fresh uuids row _ info hinfo := by
    rw [hinfos info hinfo]
    simp

/-- Two contacts without an id of their own. -/
theorem accounts_two :
    Accounts smallImport .asStored {} "t" "u" "firstname\nalice\nbob\n" := by
  have himported : imported smallImport {} "firstname\nalice\nbob\n" =
      [Dict.ofList [("firstname", "alice")], Dict.ofList [("firstname", "bob")]] := by
    decide +kernel
  refine (accounts_iff start_empty.kept ?_).2 ⟨?_, ?_⟩
  · rw [himported]
    exact serves_small (by decide)
  · exact ⟨_, rfl⟩
  · rw [himported]
    have hplain : ∀ info ∈ [Dict.ofList [("firstname", "alice")], Dict.ofList [("firstname", "bob")]],
        NoNull info ∧ ownId info = none := by
      decide
    refine ⟨fun info hinfo _ => ⟨(hplain info hinfo).1, fun id hown => ?_⟩,
      fun info _ c hc => absurd hc.mem List.not_mem_nil, ?_⟩
    · rw [(hplain info hinfo).2] at hown
      cases hown
    · rw [List.pairwise_pair]
      refine ⟨fun hhash => absurd hhash (by decide), fun _ _ _ id hown => ?_⟩
      cases hown

/-- **An import does not account for every row** when one is repeated, and
raises when two rows have one id. -/
theorem not_accounts :
    ¬ Accounts smallImport .asStored {} "t" "u" "firstname\nalice\nalice\n" ∧
      ¬ Accounts smallImport .asStored {} "t" "u" "id,firstname\nA,alice\nA,bob\n" := by
  constructor
  · rintro ⟨rows, existing, created, reported, db', -, -, hcreate, -, hreturned⟩
    -- the first of the two is returned without an id
    have hids : (PersonalService.createContacts smallImport {} "t" "u"
        (reader "firstname\nalice\nalice\n")).1.toOption.map
          (fun result => result.1.map (·.get? "id")) = some [none, some "x"] := by
      decide +kernel
    rw [hcreate] at hids
    obtain ⟨x, xs, rfl⟩ : ∃ x xs, created = x :: xs := by
      cases created with
      | nil => cases hids
      | cons x xs => exact ⟨x, xs, rfl⟩
    obtain ⟨row, rest, ⟨id, hid, -⟩, -, -⟩ := List.forall₂_cons_right_iff.1 hreturned
    have hnone : x.get? "id" = none := (List.cons.inj (Option.some.inj hids)).1
    rw [hnone] at hid
    cases hid
  · rintro ⟨rows, existing, created, reported, db', -, -, hcreate, -⟩
    have hraises : (PersonalService.createContacts smallImport {} "t" "u"
        (reader "id,firstname\nA,alice\nA,bob\n")).1.toBool = false := by
      decide +kernel
    rw [hcreate] at hraises
    cases hraises

end PersonalImport

end WazoDird
