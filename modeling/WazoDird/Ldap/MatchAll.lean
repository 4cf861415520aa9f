import WazoDird.Ldap.Filters
import WazoDird.Ldap.Plugin

/-!
# An LDAP batch and the single lookup

The batch asks for the entries of all its extensions at once, and then
looks for the extensions in what it has been given: the attributes asked
for, each by its first value, formatted.
-/

namespace WazoDird

namespace LdapPlugin

variable {py : TextOps} {escapeFilterChars : String → String} {plugin : LdapPlugin}
  {extens : List String} {e : String} {entry : LdapEntry}

/-- An entry satisfies the filter that `first_match` builds. Without a
filter the server takes `(objectClass=*)`, which every entry satisfies. -/
def SatisfiesFirstMatch (escapeFilterChars : String → String) (plugin : LdapPlugin)
    (e : String) (entry : LdapEntry) : Prop :=
  match plugin.config.buildFirstMatchFilter escapeFilterChars e with
  | none => True
  | some filter => plugin.server.Satisfies filter entry

instance : Decidable (plugin.SatisfiesFirstMatch escapeFilterChars e entry) :=
  match h : plugin.config.buildFirstMatchFilter escapeFilterChars e with
  | none => isTrue (by rw [SatisfiesFirstMatch, h]; trivial)
  | some filter => decidable_of_iff (plugin.server.Satisfies filter entry)
      (by rw [SatisfiesFirstMatch, h])

/-- The batch is given an entry: it satisfies the filter of some extension. -/
def Retrieved (escapeFilterChars : String → String) (plugin : LdapPlugin) (extens : List String)
    (entry : LdapEntry) : Prop :=
  ∃ e ∈ extens, ∃ filter, plugin.config.buildFirstMatchFilter escapeFilterChars e = some filter ∧
    plugin.server.Satisfies filter entry

instance : Decidable (plugin.Retrieved escapeFilterChars extens entry) :=
  inferInstanceAs (Decidable (∃ e ∈ extens,
    ∃ filter ∈ plugin.config.buildFirstMatchFilter escapeFilterChars e,
      plugin.server.Satisfies filter entry))

/-- The result of an entry shows an extension in a first-matched column. -/
def Shows (py : TextOps) (plugin : LdapPlugin) (e : String) (entry : LdapEntry) : Prop :=
  ∃ r, plugin.formatted py entry = .ok r ∧
    ∃ column ∈ plugin.config.firstMatchedColumns, r.fields.get? column = some (.str e)

instance : Decidable (plugin.Shows py e entry) :=
  inferInstanceAs (Decidable (∃ r, plugin.formatted py entry = .ok r ∧
    ∃ column ∈ plugin.config.firstMatchedColumns, r.fields.get? column = some (.str e)))

/-- **The batch finds what the single lookup would**, for each extension of
a list. -/
def MatchAllFinds (py : TextOps) (escapeFilterChars : String → String) (plugin : LdapPlugin)
    (extens : List String) : Prop :=
  ∀ e ∈ extens,
    (∃ found, plugin.matchAll py escapeFilterChars extens = .ok found ∧ e ∈ found.keys) ↔
      ∃ entry ∈ plugin.server.entries, plugin.SatisfiesFirstMatch escapeFilterChars e entry

instance : Decidable (plugin.MatchAllFinds py escapeFilterChars extens) :=
  inferInstanceAs (Decidable (∀ e ∈ extens,
    (∃ found, plugin.matchAll py escapeFilterChars extens = .ok found ∧ e ∈ found.keys) ↔
      ∃ entry ∈ plugin.server.entries, plugin.SatisfiesFirstMatch escapeFilterChars e entry))

/-- The filter of the batch is satisfied by what it is to be given. -/
theorem satisfies_matchAllFilter (hescape : EscapesFilterChars escapeFilterChars)
    (hvalid : plugin.config.Valid) :
    plugin.server.Satisfies (plugin.config.buildMatchAllFilter escapeFilterChars extens) entry ↔
      plugin.Retrieved escapeFilterChars extens entry := by
  obtain ⟨f, hf, hsat⟩ := LdapConfig.parse_buildMatchAllFilter hescape hvalid extens
  constructor
  · rintro ⟨g, hg, hs⟩
    rw [hf] at hg
    cases hg
    obtain ⟨e, he, filter, g, hbuild, hparse, hs⟩ := (hsat _).1 hs
    exact ⟨e, he, filter, hbuild, g, hparse, hs⟩
  · rintro ⟨e, he, filter, hbuild, g, hparse, hs⟩
    exact ⟨f, hf, (hsat _).2 ⟨e, he, filter, g, hbuild, hparse, hs⟩⟩

/-- **What the batch has as keys**: when every entry it is given can be
formatted, the extensions these show. -/
theorem mem_matchAll_iff (hescape : EscapesFilterChars escapeFilterChars)
    (hvalid : plugin.config.Valid) (he : e ∈ extens) :
    (∃ found, plugin.matchAll py escapeFilterChars extens = .ok found ∧ e ∈ found.keys) ↔
      (∀ entry ∈ plugin.server.entries, plugin.Retrieved escapeFilterChars extens entry →
        plugin.Formattable py entry) ∧
      ∃ entry ∈ plugin.server.entries, plugin.Retrieved escapeFilterChars extens entry ∧
        plugin.Shows py e entry := by
  have hsat := fun entry =>
    @satisfies_matchAllFilter escapeFilterChars plugin extens entry hescape hvalid
  have hends := @exists_searchAndFormat py plugin
    (plugin.config.buildMatchAllFilter escapeFilterChars extens)
  simp only [hsat] at hends
  rw [← hends]
  constructor
  · rintro ⟨found, hfound, hkey⟩
    obtain ⟨entries, hentries, hkeep⟩ := bind_eq_ok.1 hfound
    refine ⟨⟨entries, hentries⟩, ?_⟩
    rw [← Except.ok.inj hkeep] at hkey
    obtain ⟨-, column, hcolumn, r, hr, hshows⟩ := mem_keys_foldl_keep.1 hkey
    obtain ⟨entry, hentry, hsatisfies, hformatted⟩ := (mem_searchAndFormat hentries).1 hr
    exact ⟨entry, hentry, (hsat entry).1 hsatisfies, r, hformatted, column, hcolumn, hshows⟩
  · rintro ⟨⟨entries, hentries⟩, entry, hentry, hretrieved, r, hformatted, column, hcolumn, hshows⟩
    refine ⟨_, bind_eq_ok.2 ⟨entries, hentries, rfl⟩, ?_⟩
    have hr := (mem_searchAndFormat hentries).2
      ⟨entry, hentry, (hsat entry).2 hretrieved, hformatted⟩
    exact mem_keys_foldl_keep.2 ⟨he, column, hcolumn, r, hr, hshows⟩

/-! ## A directory -/

/-- A character as python-ldap's `escape_filter_chars` writes it. -/
def escapeChar (c : Char) : List Char :=
  if c = '\\' then ['\\', '5', 'c']
  else if c = '*' then ['\\', '2', 'a']
  else if c = '(' then ['\\', '2', '8']
  else if c = ')' then ['\\', '2', '9']
  else if c = '\x00' then ['\\', '0', '0']
  else [c]

/-- python-ldap's `escape_filter_chars`. -/
def escapeChars (s : String) : String := String.ofList (s.toList.flatMap escapeChar)

/-- An escaped character stands for its octets. -/
theorem decodeAssertion_escapeChar (c : Char) (cs : List Char) :
    Rfc4515.decodeAssertion (escapeChar c ++ cs) =
      (Rfc4515.decodeAssertion cs).map (Rfc4515.prepend (String.utf8EncodeChar c)) := by
  by_cases hspecial : Rfc4515.isSpecial c = true
  · simp only [Rfc4515.isSpecial, Bool.or_eq_true, decide_eq_true_eq] at hspecial
    rcases hspecial with (((rfl | rfl) | rfl) | rfl) | rfl
    all_goals exact Rfc4515.decodeAssertion_escape _ _ cs
  · have hplain : Rfc4515.isSpecial c = false := by simpa using hspecial
    have hself : escapeChar c = [c] := by
      simp only [Rfc4515.isSpecial, Bool.or_eq_true, decide_eq_true_eq, not_or] at hspecial
      obtain ⟨⟨⟨⟨hopen, hclose⟩, hstar⟩, hslash⟩, hnul⟩ := hspecial
      rw [escapeChar, if_neg hslash, if_neg hstar, if_neg hopen, if_neg hclose, if_neg hnul]
    rw [hself]
    exact Rfc4515.decodeAssertion_plain hplain cs

theorem escapeChars_escapes : EscapesFilterChars escapeChars := by
  intro s
  rw [escapeChars, String.toList_ofList]
  induction s.toList with
  | nil => rfl
  | cons c cs ih =>
    rw [List.flatMap_cons, decodeAssertion_escapeChar, ih]
    rfl

/-- A person, with a name and telephone numbers. -/
def person (cn : String) (numbers : List String) : LdapEntry where
  dn := "cn"
  attrs := Dict.ofList [("cn", [utf8 cn.toList]),
    ("telephoneNumber", numbers.map fun number => utf8 number.toList)]

/-- A source that matches telephone numbers. -/
def numberSource (formatColumns : Option (Dict String String)) (columns : List String)
    (entries : List LdapEntry) : LdapPlugin where
  config :=
    { name := "ldap", searchedColumns := ["cn"], firstMatchedColumns := columns
      formatColumns := formatColumns, searches := Or.inr (by decide) }
  server := directory entries

end LdapPlugin

end WazoDird
