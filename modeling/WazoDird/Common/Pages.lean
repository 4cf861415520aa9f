import Mathlib.Data.Set.Finite.Basic
import Mathlib.Logic.Relation
import Mathlib.Order.WellFoundedSet

/-!
# Pages that link to one another

A page is loaded from its address, or the loading fails; and it may have a
link to a page after it. From an address on, the links make a chain to a
page without one (`Chain`), break at a page that fails (`Breaks`), or come
back to a page already seen (`ComesBack`). Where only finitely many pages
have a link, one of the three is so, and only one.
-/

namespace WazoDird

/-- A page: what it holds, and the address of the one after it. -/
structure Page (α β : Type) where
  content : β
  next : Option α

namespace Pages

variable {α β ε : Type} (load : α → Except ε (Page α β))

/-- The page at the first address has a link to the second. -/
def Links (a b : α) : Prop := ∃ content, load a = .ok ⟨content, some b⟩

/-- **A chain**: the pages from an address on, each with its address, to
one without a link. -/
inductive Chain : α → List (α × β) → Prop
  /-- A page without a link. -/
  | last {a : α} {content : β} : load a = .ok ⟨content, none⟩ → Chain a [(a, content)]
  /-- A page, and the chain its link leads to. -/
  | link {a b : α} {content : β} {pages : List (α × β)} :
      load a = .ok ⟨content, some b⟩ → Chain b pages → Chain a ((a, content) :: pages)

/-- **A broken chain**: the links from an address on lead to a page that
fails. -/
inductive Breaks : α → ε → Prop
  /-- The page itself fails. -/
  | here {a : α} {e : ε} : load a = .error e → Breaks a e
  /-- A page whose link leads to one that fails. -/
  | later {a b : α} {content : β} {e : ε} :
      load a = .ok ⟨content, some b⟩ → Breaks b e → Breaks a e

/-- **The links from an address on come back** to a page already seen. -/
def ComesBack (a : α) : Prop :=
  ∃ b, Relation.ReflTransGen (Links load) a b ∧ Relation.TransGen (Links load) b b

variable {load} {a b c : α} {content : β} {e : ε} {pages : List (α × β)}

/-- A page has one link at most. -/
theorem Links.unique (h : Links load a b) (h' : Links load a c) : b = c := by
  obtain ⟨content, hload⟩ := h
  obtain ⟨content', hload'⟩ := h'
  have hpage := Except.ok.inj (hload.symm.trans hload')
  injection hpage with _ hnext
  exact Option.some.inj hnext

/-- **A link hands on whether the pages come back.** -/
theorem Links.comesBack_iff (h : Links load a b) : ComesBack load a ↔ ComesBack load b := by
  constructor
  · rintro ⟨c, hac, hcc⟩
    rcases hac.cases_head with rfl | ⟨b', hb', hbc⟩
    · -- the page itself is come back to, and so by way of its link
      obtain ⟨b', hb', hba⟩ := Relation.TransGen.head'_iff.1 hcc
      cases h.unique hb'
      exact ⟨a, hba, hcc⟩
    · cases h.unique hb'
      exact ⟨c, hbc, hcc⟩
  · rintro ⟨c, hbc, hcc⟩
    exact ⟨c, hbc.head h, hcc⟩

/-- A page without a link leads nowhere. -/
theorem not_comesBack_of_no_link (h : ∀ b, ¬ Links load a b) : ¬ ComesBack load a := by
  rintro ⟨c, hac, hcc⟩
  rcases hac.cases_head with rfl | ⟨b, hb, -⟩
  · obtain ⟨b, hb, -⟩ := Relation.TransGen.head'_iff.1 hcc
    exact h b hb
  · exact h b hb

/-- Pages that come back have a link, to pages that come back. -/
theorem ComesBack.exists_link (h : ComesBack load a) : ∃ b, Links load a b ∧ ComesBack load b := by
  by_contra hno
  refine not_comesBack_of_no_link (fun b hb => ?_) h
  exact hno ⟨b, hb, hb.comesBack_iff.1 h⟩

/-- A chain does not come back. -/
theorem Chain.not_comesBack (h : Chain load a pages) : ¬ ComesBack load a := by
  induction h with
  | last hload =>
    refine not_comesBack_of_no_link ?_
    rintro b ⟨_, hlink⟩
    cases hload.symm.trans hlink
  | link hload _ ih => rwa [Links.comesBack_iff ⟨_, hload⟩]

/-- Nor does a broken one. -/
theorem Breaks.not_comesBack (h : Breaks load a e) : ¬ ComesBack load a := by
  induction h with
  | here hload =>
    refine not_comesBack_of_no_link ?_
    rintro b ⟨_, hlink⟩
    cases hload.symm.trans hlink
  | later hload _ ih => rwa [Links.comesBack_iff ⟨_, hload⟩]

/-- Every page of a chain is reached by its links. -/
theorem Chain.reaches (h : Chain load a pages) (hb : b ∈ pages.map Prod.fst) :
    Relation.ReflTransGen (Links load) a b := by
  induction h with
  | last => rw [List.mem_singleton.1 hb]
  | link hload _ ih =>
    rcases List.mem_cons.1 hb with rfl | hb
    · exact Relation.ReflTransGen.refl
    · exact (ih hb).head ⟨_, hload⟩

/-- **A chain has each of its pages once.** -/
theorem Chain.nodup (h : Chain load a pages) : (pages.map Prod.fst).Nodup := by
  induction h with
  | last => exact List.nodup_singleton _
  | @link a b content pages hload hchain ih =>
    refine List.nodup_cons.2 ⟨fun hmem => ?_, ih⟩
    have hlink : Links load a b := ⟨content, hload⟩
    exact (Chain.link hload hchain).not_comesBack
      ⟨a, Relation.ReflTransGen.refl, Relation.TransGen.head' hlink (hchain.reaches hmem)⟩

variable (load) in
/-- The pages from an address on end: in a chain, or at a page that
fails. -/
def Ends (a : α) : Prop := (∃ pages, Chain load a pages) ∨ ∃ e, Breaks load a e

/-- A page without a link ends the pages. -/
theorem ends_of_no_link (h : ¬ ∃ b, Links load a b) : Ends load a := by
  rcases hload : load a with e | ⟨content, - | b⟩
  · exact Or.inr ⟨e, .here hload⟩
  · exact Or.inl ⟨_, .last hload⟩
  · exact absurd ⟨b, content, hload⟩ h

/-- A page ends as the page its link leads to. -/
theorem Links.ends (hlink : Links load a b) (h : Ends load b) : Ends load a := by
  obtain ⟨content, hload⟩ := hlink
  rcases h with ⟨pages, hpages⟩ | ⟨e, he⟩
  · exact Or.inl ⟨_, .link hload hpages⟩
  · exact Or.inr ⟨e, .later hload he⟩

/-- **Where finitely many pages have a link, the pages end unless they come
back.** -/
theorem ends_of_not_comesBack (hfin : {a | ∃ b, Links load a b}.Finite)
    (h : ¬ ComesBack load a) : Ends load a := by
  -- among the pages the links lead to, being further along is a strict order
  let further : α → α → Prop := fun c b =>
    Relation.ReflTransGen (Links load) a b ∧ Relation.TransGen (Links load) b c
  have hirrefl : Std.Irrefl further := ⟨fun b hb => h ⟨b, hb⟩⟩
  have htrans : IsTrans α further := ⟨fun _ _ _ hcb hdc => ⟨hdc.1, hdc.2.trans hcb.2⟩⟩
  have horder : IsStrictOrder α further := {}
  have hwf : {a | ∃ b, Links load a b}.WellFoundedOn further := hfin.wellFoundedOn
  have hlinked : ∀ b, (∃ c, Links load b c) → Relation.ReflTransGen (Links load) a b →
      Ends load b := by
    intro b hb
    refine hwf.induction (P := fun b => Relation.ReflTransGen (Links load) a b → Ends load b) hb ?_
    intro b hb ih hreach
    obtain ⟨c, hc⟩ := hb
    refine hc.ends ?_
    by_cases hlast : ∃ d, Links load c d
    · exact ih c hlast ⟨hreach, Relation.TransGen.single hc⟩ (hreach.tail hc)
    · exact ends_of_no_link hlast
  by_cases hlink : ∃ b, Links load a b
  · exact hlinked a hlink Relation.ReflTransGen.refl
  · exact ends_of_no_link hlink

end Pages

end WazoDird
