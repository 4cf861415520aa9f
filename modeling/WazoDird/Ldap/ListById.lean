import WazoDird.Ldap.Filters
import WazoDird.Ldap.Plugin

/-!
# Listing LDAP contacts by id

The ids of a list go into a filter: text as it stands, a binary id by the
octets it names. Text is not escaped, so it is a value only where it has no
character of the syntax, and a binary id that is no uuid raises.
`lists_safely_iff` says that nothing else is needed of the ids.
-/

namespace WazoDird

open Rfc4515

namespace LdapConfig

variable (py : TextOps) (config : LdapConfig)

/-- The value that an id names. -/
def uidValue (uid : String) : Option Bytes :=
  if config.hasBinaryUuid then PyUuid.ofString py uid else some (utf8 uid.toList)

/-- **An id can be written into a filter**: a binary id is a uuid, and text
has no special character. -/
def Writable (uid : String) : Prop :=
  if config.hasBinaryUuid then (PyUuid.ofString py uid).isSome = true
  else ∀ c ∈ uid.toList, isSpecial c = false

/-- The item that asks for a value in the unique column. -/
def uidItem (column : String) (value : Bytes) : Item := ⟨column.toList, .equal, [value]⟩

variable {py config} {column : String} {uids : List String}

/-! ## The filter -/

/-- The digits of octets, escaped, stand for them. -/
theorem decodeAssertion_escapePairs (b : Bytes) :
    decodeAssertion (escapePairs (hex b)) = some [b] := by
  induction b with
  | nil => rfl
  | cons octet b ih =>
    rw [hex_cons, hexPair]
    show decodeAssertion ('\\' :: hexDigit (octet.toNat / 16) :: hexDigit (octet.toNat % 16) ::
      escapePairs (hex b)) = _
    rw [decodeAssertion_escape, hexOctet?_hexPair, Option.bind_some, ih]
    rfl

/-- A uuid goes into the filter as its octets. -/
theorem convertBinaryUid_eq_some {uid : String} {b : Bytes} (h : PyUuid.ofString py uid = some b) :
    ∃ text, convertBinaryUid py uid = some text ∧ decodeAssertion text.toList = some [b] := by
  refine ⟨String.ofList (escapePairs (hex b)), ?_, ?_⟩
  · rw [convertBinaryUid, h, Option.map_some]
  · rw [String.toList_ofList, decodeAssertion_escapePairs]

/-- **What ids are written as** stands for the values they name. -/
theorem exists_convertUids (h : ∀ uid ∈ uids, config.Writable py uid) :
    ∃ texts values, config.convertUids py uids = some texts ∧
      List.Forall₂ (fun uid value => config.uidValue py uid = some value) uids values ∧
      List.Forall₂ (fun text value => decodeAssertion text.toList = some [value]) texts values := by
  by_cases hbinary : config.hasBinaryUuid = true
  · simp only [convertUids, uidValue, Writable, hbinary, if_true] at h ⊢
    simp only [mapM_eq_some_iff]
    induction uids with
    | nil => exact ⟨[], [], .nil, .nil, .nil⟩
    | cons uid uids ih =>
      rw [List.forall_mem_cons] at h
      obtain ⟨texts, values, htexts, hvalues, hstand⟩ := ih h.2
      obtain ⟨b, hb⟩ := Option.isSome_iff_exists.1 h.1
      obtain ⟨text, htext, hdecode⟩ := convertBinaryUid_eq_some hb
      exact ⟨text :: texts, b :: values, .cons htext htexts, .cons hb hvalues,
        .cons hdecode hstand⟩
  · simp only [convertUids, uidValue, Writable, hbinary, if_false, Bool.false_eq_true] at h ⊢
    refine ⟨uids, uids.map fun uid => utf8 uid.toList, rfl, ?_, ?_⟩
    · exact List.forall₂_map_right_iff.2 (List.forall₂_same.2 fun uid _ => rfl)
    · exact List.forall₂_map_right_iff.2
        (List.forall₂_same.2 fun uid huid => decodeAssertion_of_plain (h uid huid))

/-- The equalities of a column with values, one for each text. -/
theorem parse_equalities (hattr : isAttr column.toList = true) {texts : List String}
    {values : List Bytes}
    (h : List.Forall₂ (fun text value => decodeAssertion text.toList = some [value]) texts values) :
    parse (buildFilterFromList (texts.map (equality column))).toList =
      some (disjunction (values.map fun value => .item (uidItem column value))) := by
  refine parse_buildFilterFromList ?_
  rw [List.forall₂_map_left_iff, List.forall₂_map_right_iff]
  exact h.imp fun text value hvalue => parse_equality hattr hvalue

/-- **The filter of ids that can be written** asks for the values they
name. -/
theorem exists_buildListFilter (hattr : isAttr column.toList = true)
    (h : ∀ uid ∈ uids, config.Writable py uid) :
    ∃ filter values, config.buildListFilter py column uids = some filter ∧
      List.Forall₂ (fun uid value => config.uidValue py uid = some value) uids values ∧
      parse filter.toList =
        some (disjunction (values.map fun value => .item (uidItem column value))) := by
  obtain ⟨texts, values, htexts, hvalues, hstand⟩ := exists_convertUids h
  refine ⟨_, values, ?_, hvalues, parse_equalities hattr hstand⟩
  rw [buildListFilter, htexts, Option.map_some]

/-! ## Ids that cannot be written -/

/-- The text of an item, in parentheses, begins with no longer a value than
it was written with. -/
theorem prefix_of_closed {v cs rest rest' : List Char} (hv : ')' ∉ v)
    (h : v ++ ')' :: rest = cs ++ ')' :: rest') : v <+: cs := by
  rcases List.append_eq_append_iff.1 h with ⟨as, hcs, -⟩ | ⟨bs, hv', hrest⟩
  · exact ⟨as, hcs.symm⟩
  · cases bs with
    | nil => exact ⟨[], by rw [hv', List.append_nil, List.append_nil]⟩
    | cons b bs =>
      have hb : b = ')' := (List.cons.inj hrest).1.symm
      exact absurd (by rw [hv', hb]; simp) hv

/-- The text that an item is read from, when it is to ask for the text it
was built with. -/
theorem eq_of_parseItem {text rest rest' : List Char} {cs : List Char}
    (hitem : parseItem text = some (uidItem column (utf8 cs)))
    (h : '(' :: (text ++ [')']) ++ rest = '(' :: (column.toList ++ '=' :: (cs ++ ')' :: rest'))) :
    (∀ c ∈ cs, isSpecial c = false) ∧ rest = rest' := by
  obtain ⟨v, rfl, hdecode⟩ := exists_value_of_parseItem hitem
  have htail : v ++ ')' :: rest = cs ++ ')' :: rest' := by simpa using h
  have hbegins : v <+: cs := prefix_of_closed (no_paren_of_decodeAssertion hdecode).2 htail
  have heq : v = cs := eq_of_prefix_of_decodeAssertion hbegins hdecode
  rw [heq] at hdecode htail
  refine ⟨decodeAssertion_self_iff.1 hdecode, ?_⟩
  simpa using htail

/-- **Text that is to be asked for as it stands has no special
character.** -/
theorem plain_of_renderAll {trees : List Tree}
    (hread : traverseAll parseItem trees =
      some (uids.map fun uid => .item (uidItem column (utf8 uid.toList))))
    (htext : renderAll trees = ((uids.map (equality column)).map String.toList).flatten) :
    ∀ uid ∈ uids, ∀ c ∈ uid.toList, isSpecial c = false := by
  induction uids generalizing trees with
  | nil => exact fun uid huid => by cases huid
  | cons uid uids ih =>
    cases trees with
    | nil => cases hread
    | cons tree trees =>
      obtain ⟨f, hf, hrest⟩ := Option.bind_eq_some_iff.1 hread
      obtain ⟨fs, hfs, hcons⟩ := Option.map_eq_some_iff.1 hrest
      obtain ⟨rfl, rfl⟩ := List.cons.inj hcons
      obtain ⟨text, rfl, hitem⟩ := exists_text_of_traverse hf
      have hsplit : '(' :: (text ++ [')']) ++ renderAll trees =
          '(' :: (column.toList ++ '=' :: (uid.toList ++
            ')' :: ((uids.map (equality column)).map String.toList).flatten)) := by
        rw [renderAll, render] at htext
        rw [htext]
        simp [equality, String.toList_append]
      obtain ⟨hplain, htexts⟩ := eq_of_parseItem hitem hsplit
      exact List.forall_mem_cons.2 ⟨hplain, ih hfs htexts⟩

/-- **A filter that asks for the values of its ids** is one of ids that can
be written. -/
theorem writable_of_parse {filter : String} {values : List Bytes}
    (hfilter : config.buildListFilter py column uids = some filter)
    (hvalues : List.Forall₂ (fun uid value => config.uidValue py uid = some value) uids values)
    (hparse : parse filter.toList =
      some (disjunction (values.map fun value => .item (uidItem column value)))) :
    ∀ uid ∈ uids, config.Writable py uid := by
  by_cases hbinary : config.hasBinaryUuid = true
  · intro uid huid
    obtain ⟨value, -, hvalue⟩ := exists_of_forall₂ hvalues huid
    rw [uidValue, if_pos hbinary] at hvalue
    rw [Writable, if_pos hbinary, hvalue]
    rfl
  · simp only [Writable, hbinary, if_false, Bool.false_eq_true]
    simp only [uidValue, hbinary, if_false, Bool.false_eq_true] at hvalues
    have heq : List.Forall₂ (· = ·) (uids.map fun uid => utf8 uid.toList) values :=
      List.forall₂_map_left_iff.2 (hvalues.imp fun _ _ h => Option.some.inj h)
    rw [List.forall₂_eq_eq_eq] at heq
    subst heq
    simp only [buildListFilter, convertUids, hbinary, if_false, Bool.false_eq_true,
      Option.map_some, Option.some.injEq] at hfilter
    subst hfilter
    rw [List.map_map] at hparse
    -- one id is written by itself, any other number in a disjunction
    match uids with
    | [] => exact fun uid huid => by cases huid
    | [uid] =>
      obtain ⟨text, htext, hitem⟩ := exists_text_of_parse hparse
      have hsplit : '(' :: (text ++ [')']) ++ [] =
          '(' :: (column.toList ++ '=' :: (uid.toList ++ ')' :: [])) := by
        rw [List.append_nil, ← htext]
        simp [buildFilterFromList, equality, String.toList_append]
      exact List.forall_mem_singleton.2 (eq_of_parseItem hitem hsplit).1
    | uid :: uid' :: uids =>
      obtain ⟨trees, htext, hread⟩ := exists_trees_of_parse hparse
      refine plain_of_renderAll hread ?_
      rw [List.map_cons, List.map_cons, buildFilterFromList, toList_disjunction] at htext
      · exact (List.append_cancel_right (List.cons.inj (List.cons.inj htext).2).2).symm
      · simp

/-! ## The uid of a result -/

theorem unique_eq_some_iff : config.unique = some column ↔
    config.uniqueColumn = some column ∧ column ≠ "" := by
  rw [unique, Option.filter_eq_some_iff, decide_eq_true_eq]

/-- **The uid of a result** is the text of the first value of the unique
column. -/
theorem sourceEntryId_eq_some (hcolumn : config.unique = some column) {attrs : LdapAttrs}
    {r : SourceResult} (hr : config.formatOneResult py attrs = .ok r) {uid : String}
    (huid : r.relations.sourceEntryId = some uid) :
    ∃ value values, attrs.get? column = some (value :: values) ∧
      config.decodeValue column value = some uid := by
  obtain ⟨fields, hfields, hmake⟩ := bind_eq_ok.1 hr
  obtain ⟨formatted, -, hpure⟩ := bind_eq_ok.1 hmake
  obtain ⟨hunique, hne⟩ := unique_eq_some_iff.1 hcolumn
  have hget : ((Dict.ofList fields).get? column).map py.str = some uid := by
    rw [← Except.ok.inj hpure] at huid
    have hgetUnique : config.resultClass.getUnique py (Dict.ofList fields) = some uid := huid
    unfold ResultClass.getUnique at hgetUnique
    split at hgetUnique
    · cases hgetUnique
    · next heq => exact absurd (Option.some.inj (hunique.symm.trans heq)) hne
    · next heq =>
      cases hunique.symm.trans heq
      exact hgetUnique
  obtain ⟨v, hv, rfl⟩ := Option.map_eq_some_iff.1 hget
  obtain ⟨values, hattr, hfield⟩ := (get?_fields hfields).1 hv
  obtain ⟨value, hvalue, text, htext, heq⟩ := formatField_eq_ok.1 hfield
  obtain ⟨rest, rfl⟩ := List.head?_eq_some_iff.1 hvalue
  cases heq
  rw [py.str_str]
  exact ⟨value, rest, hattr, htext⟩

/-- **A binary uid goes back into a filter as the value it was made of.** -/
theorem decode_convertBinaryUid (hbinary : config.hasBinaryUuid = true)
    (hcolumn : config.uniqueColumn = some column) {value : Bytes} {uid : String}
    (h : config.decodeValue column value = some uid) :
    ∃ text, convertBinaryUid py uid = some text ∧ decodeAssertion text.toList = some [value] := by
  rw [decodeValue, if_pos ⟨hcolumn.symm, hbinary⟩] at h
  obtain ⟨b, hb, rfl⟩ := Option.map_eq_some_iff.1 h
  unfold PyUuid.ofBytes? at hb
  split at hb
  · next hlength =>
    cases hb
    exact convertBinaryUid_eq_some (PyUuid.ofString_str py hlength)
  · cases hb

end LdapConfig

namespace LdapPlugin

variable {py : TextOps} {plugin : LdapPlugin} {column : String} {uids : List String}

/-- The unique column of an entry is one of the ids. -/
def Named (py : TextOps) (plugin : LdapPlugin) (column : String) (uids : List String)
    (entry : LdapEntry) : Prop :=
  ∃ uid ∈ uids, ∃ value ∈ plugin.config.uidValue py uid,
    plugin.server.holds (LdapConfig.uidItem column value) entry = some true

instance (entry : LdapEntry) : Decidable (plugin.Named py column uids entry) :=
  inferInstanceAs (Decidable (∃ uid ∈ uids, ∃ value ∈ plugin.config.uidValue py uid,
    plugin.server.holds (LdapConfig.uidItem column value) entry = some true))

/-- **A list of ids is listed safely.** -/
structure ListsSafely (py : TextOps) (plugin : LdapPlugin) (column : String)
    (uids : List String) : Prop where
  /-- The filter is the disjunction of one equality for each id. -/
  filter : uids ≠ [] → ∃ filter values,
    plugin.config.buildListFilter py column uids = some filter ∧
    List.Forall₂ (fun uid value => plugin.config.uidValue py uid = some value) uids values ∧
    parse filter.toList =
      some (disjunction (values.map fun value => .item (LdapConfig.uidItem column value)))
  /-- The results are those of the entries the ids name. -/
  results : ∃ results, plugin.list py uids = .ok results ∧
    (plugin.server.entries.filter (plugin.Named py column uids)).mapM (plugin.formatted py) =
      .ok results
  /-- To list more ids than some leaves their results and raises nothing. -/
  keeps : ∀ fewer ⊆ uids, ∀ before, plugin.list py fewer = .ok before →
    ∃ after, plugin.list py uids = .ok after ∧ before ⊆ after
  /-- The uid of a result, in a filter, is the value of its entry. -/
  uid : plugin.config.hasBinaryUuid = true →
    ∀ attrs r uid, plugin.config.formatOneResult py attrs = .ok r →
      r.relations.sourceEntryId = some uid →
      ∃ value values, attrs.get? column = some (value :: values) ∧
        ∃ text, LdapConfig.convertBinaryUid py uid = some text ∧
          decodeAssertion text.toList = some [value]

/-- What the filter of ids that can be written is satisfied by. -/
theorem satisfies_listFilter {filter : String} {values : List Bytes} {entry : LdapEntry}
    (hvalues : List.Forall₂ (fun uid value => plugin.config.uidValue py uid = some value)
      uids values)
    (hparse : parse filter.toList =
      some (disjunction (values.map fun value => .item (LdapConfig.uidItem column value)))) :
    plugin.server.Satisfies filter entry ↔ plugin.Named py column uids entry := by
  have hsat : plugin.server.Satisfies filter entry ↔
      ∃ value ∈ values, plugin.server.holds (LdapConfig.uidItem column value) entry =
        some true := by
    unfold LdapServer.Satisfies
    rw [hparse]
    simp [satisfied_disjunction]
  rw [hsat]
  constructor
  · rintro ⟨value, hvalue, hholds⟩
    obtain ⟨uid, huid, hnames⟩ := exists_of_forall₂ hvalues.flip hvalue
    exact ⟨uid, huid, value, hnames, hholds⟩
  · rintro ⟨uid, huid, value, hnames, hholds⟩
    obtain ⟨value', hvalue, hnames'⟩ := exists_of_forall₂ hvalues huid
    cases hnames.symm.trans hnames'
    exact ⟨value, hvalue, hholds⟩

/-- **Ids that can be written list the entries they name.** -/
theorem list_eq (hcolumn : plugin.config.unique = some column)
    (hattr : isAttr column.toList = true) (h : ∀ uid ∈ uids, plugin.config.Writable py uid) :
    plugin.list py uids =
      (plugin.server.entries.filter (plugin.Named py column uids)).mapM
        (plugin.formatted py) := by
  cases uids with
  | nil =>
    have hnone : plugin.server.entries.filter (plugin.Named py column []) = [] :=
      List.filter_eq_nil_iff.2 fun entry _ hnamed => by
        obtain ⟨uid, huid, -⟩ := of_decide_eq_true hnamed
        cases huid
    rw [hnone]
    unfold list
    rw [hcolumn]
    rfl
  | cons uid uids =>
    obtain ⟨filter, values, hfilter, hvalues, hparse⟩ :=
      LdapConfig.exists_buildListFilter hattr h
    have hentries : plugin.server.entries.filter (plugin.server.Satisfies filter) =
        plugin.server.entries.filter (plugin.Named py column (uid :: uids)) :=
      List.filter_congr fun entry _ =>
        decide_eq_decide.2 (satisfies_listFilter hvalues hparse)
    unfold list
    rw [hcolumn]
    simp only [hfilter]
    rw [searchAndFormat_eq, hentries]

/-- **When a list of ids is listed safely**: each can be written, and the
entries they name can be formatted. -/
theorem lists_safely_iff (hcolumn : plugin.config.unique = some column)
    (hattr : isAttr column.toList = true) :
    ListsSafely py plugin column uids ↔
      (∀ uid ∈ uids, plugin.config.Writable py uid) ∧
      ∀ entry ∈ plugin.server.entries, plugin.Named py column uids entry →
        plugin.Formattable py entry := by
  have hformat : ∀ uids, (∃ results,
      (plugin.server.entries.filter (plugin.Named py column uids)).mapM (plugin.formatted py) =
        .ok results) ↔ ∀ entry ∈ plugin.server.entries, plugin.Named py column uids entry →
          plugin.Formattable py entry := by
    intro uids
    rw [exists_mapM_eq_ok]
    simp only [List.mem_filter, decide_eq_true_eq, and_imp]
    exact forall₃_congr fun entry _ _ => LdapConfig.exists_formatOneResult_iff
  constructor
  · intro h
    constructor
    · by_cases hnil : uids = []
      · rw [hnil]
        exact fun uid huid => by cases huid
      · obtain ⟨filter, values, hfilter, hvalues, hparse⟩ := h.filter hnil
        exact LdapConfig.writable_of_parse hfilter hvalues hparse
    · obtain ⟨results, -, hresults⟩ := h.results
      exact (hformat uids).1 ⟨results, hresults⟩
  · rintro ⟨hwritable, hformattable⟩
    obtain ⟨results, hresults⟩ := (hformat uids).2 hformattable
    have hlist : plugin.list py uids = .ok results :=
      (list_eq hcolumn hattr hwritable).trans hresults
    refine ⟨fun _ => LdapConfig.exists_buildListFilter hattr hwritable,
      ⟨results, hlist, hresults⟩, ?_, ?_⟩
    · intro fewer hfewer before hbefore
      refine ⟨results, hlist, fun r hr => ?_⟩
      rw [list_eq hcolumn hattr fun uid huid => hwritable uid (hfewer huid)] at hbefore
      obtain ⟨entry, hentry, hformatted⟩ := (mem_mapM_iff hbefore).1 hr
      obtain ⟨hmem, hnamed⟩ := List.mem_filter.1 hentry
      obtain ⟨uid, huid, hvalue⟩ := of_decide_eq_true hnamed
      -- an id of the shorter list is one of the longer
      exact (mem_mapM_iff hresults).2 ⟨entry,
        List.mem_filter.2 ⟨hmem, decide_eq_true ⟨uid, hfewer huid, hvalue⟩⟩, hformatted⟩
    · intro hbinary attrs r uid hr huid
      obtain ⟨value, values, hget, hdecode⟩ := LdapConfig.sourceEntryId_eq_some hcolumn hr huid
      exact ⟨value, values, hget, LdapConfig.decode_convertBinaryUid hbinary
        (LdapConfig.unique_eq_some_iff.1 hcolumn).1 hdecode⟩

/-! ## Accounts -/

/-- An account, by its uid. -/
def account (uid : Bytes) : LdapEntry where
  dn := "uid"
  attrs := Dict.ofList [("uid", [uid])]

/-- A source of accounts. -/
def accountSource (uniqueColumnFormat : String) (entries : List LdapEntry) : LdapPlugin where
  config :=
    { name := "ldap", searchedColumns := ["uid"], uniqueColumn := some "uid"
      uniqueColumnFormat := uniqueColumnFormat, searches := Or.inr (by decide) }
  server := directory entries

/-- Two ids list their accounts. -/
theorem lists_safely_two :
    ListsSafely plainText (accountSource "string"
      [account (utf8 "alice".toList), account (utf8 "bob".toList)]) "uid" ["alice", "bob"] := by
  refine (lists_safely_iff rfl (by decide)).2 ⟨?_, ?_⟩
  · intro uid huid
    have hplain : ∀ uid ∈ ["alice", "bob"], uid.toList.all (!isSpecial ·) = true := by decide
    rw [LdapConfig.Writable, if_neg (by decide)]
    simpa using hplain uid huid
  · decide +kernel

/-- **They do not with an odd id**: an asterisk lists every account, a
parenthesis none, and text that is no uuid raises. -/
theorem does_not_list_safely :
    (let accounts := accountSource "string"
        [account (utf8 "alice".toList), account (utf8 "bob".toList)];
      ¬ ListsSafely plainText accounts "uid" ["alice", "*"] ∧
        ¬ ListsSafely plainText accounts "uid" ["alice", ")"]) ∧
      ¬ ListsSafely plainText (accountSource "binary_uuid" [account (List.replicate 16 7)]) "uid"
        ["07070707-0707-0707-0707-070707070707", "alice"] := by
  refine ⟨⟨fun h => ?_, fun h => ?_⟩, fun h => ?_⟩
  · obtain ⟨results, hlist, hnamed⟩ := h.results
    exact absurd (hlist.trans hnamed.symm) (by decide +kernel)
  · obtain ⟨results, hlist, hnamed⟩ := h.results
    exact absurd (hlist.trans hnamed.symm) (by decide +kernel)
  · obtain ⟨results, hlist, -⟩ := h.results
    have hraises : ¬ ∃ results, list plainText
        (accountSource "binary_uuid" [account (List.replicate 16 7)])
        ["07070707-0707-0707-0707-070707070707", "alice"] = .ok results := by
      decide +kernel
    exact hraises ⟨results, hlist⟩

end LdapPlugin

end WazoDird
