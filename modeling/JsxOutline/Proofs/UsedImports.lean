import JsxOutline.Proofs.Unfolding
import Mathlib.Data.List.Induction

/-!
# Uses of imports

A name is used where a tag begins with it and where it is the value of an attribute `component`.
Main statement: the used imports of a module with elements are the first bindings of the names that
are used in its tree, in the order of their first uses.
-/

namespace JsxOutline

/-! ### Places of use -/

namespace Tree

/-- A name of a tag begins with an identifier: it is one, or dots follow what begins with it. -/
inductive BeginsWith : Tree → String → Prop
  | identifier {t : Tree} : t.kind = "identifier" → BeginsWith t t.text
  | dotted {t first : Tree} {name : String} : isDotted t.label = true →
      t.named.head? = some first → BeginsWith first name → BeginsWith t name

/-- An attribute of two parts hands on a name as the component. -/
def HandsOn (t : Tree) (name : String) : Prop :=
  ∃ key value x, t.named = [key, value] ∧ key.text = "component" ∧
    value.kind = "jsx_expression" ∧ value.named = [x] ∧ x.kind = "identifier" ∧ x.text = name

/-- A name is used as a component: by a tag that begins with it, or by an attribute. -/
def Uses (t : Tree) (name : String) : Prop :=
  ((t.kind = "jsx_opening_element" ∨ t.kind = "jsx_self_closing_element") ∧
      ∃ tag, t.field? "name" = some tag ∧ tag.BeginsWith name) ∨
    t.kind = "jsx_attribute" ∧ t.HandsOn name

mutual

theorem beginsWith_of_leftmost? {name : String} :
    ∀ {t : Tree}, leftmost? t = some name → t.BeginsWith name
  | node l cs, h => by
    rw [leftmost?] at h
    split at h
    · next hdotted =>
      obtain ⟨first, hfirst, hname⟩ := exists_of_leftmostOf? h
      exact .dotted hdotted hfirst hname
    · split at h
      · next hkind =>
        rw [← Option.some.inj h]
        exact .identifier (beq_iff_eq.mp hkind)
      · cases h

theorem exists_of_leftmostOf? {name : String} :
    ∀ {cs : List Tree}, leftmostOf? cs = some name →
      ∃ first, (cs.filter (·.label.named)).head? = some first ∧ first.BeginsWith name
  | t :: ts, h => by
    rw [leftmostOf?] at h
    split at h
    · next hnamed => exact ⟨t, by simp [hnamed], beginsWith_of_leftmost? h⟩
    · next hnamed =>
      obtain ⟨first, hfirst, hname⟩ := exists_of_leftmostOf? h
      exact ⟨first, by simpa [hnamed] using hfirst, hname⟩

end

theorem leftmostOf?_eq (cs : List Tree) :
    leftmostOf? cs = (cs.filter (·.label.named)).head?.bind leftmost? := by
  induction cs with
  | nil => rfl
  | cons t ts ih => by_cases hnamed : t.label.named = true <;> simp [leftmostOf?, hnamed, ih]

theorem leftmost?_eq (t : Tree) :
    t.leftmost? =
      if isDotted t.label then t.named.head?.bind leftmost?
      else if t.kind == "identifier" then some t.text else none := by
  cases t with
  | node l cs =>
    rw [leftmost?, leftmostOf?_eq]
    rfl

theorem leftmost?_eq_some_iff {t : Tree} {name : String} :
    t.leftmost? = some name ↔ t.BeginsWith name := by
  refine ⟨beginsWith_of_leftmost?, ?_⟩
  intro h
  induction h with
  | @identifier t hkind =>
    have hlabel : t.label.kind = "identifier" := hkind
    have hdotted : isDotted t.label = false := by simp [isDotted, hlabel]
    rw [leftmost?_eq, hdotted]
    simp [hkind]
  | @dotted t first name hdotted hfirst _ ih =>
    rw [leftmost?_eq, if_pos hdotted, hfirst]
    exact ih

theorem tagName?_eq_some_iff {t : Tree} {name : String} :
    t.tagName? = some name ↔ ∃ tag, t.field? "name" = some tag ∧ tag.BeginsWith name := by
  simp only [tagName?, Option.bind_eq_some_iff, leftmost?_eq_some_iff]

theorem componentValue?_eq_some_iff {t : Tree} {name : String} :
    t.componentValue? = some name ↔ t.HandsOn name := by
  constructor
  · intro h
    unfold componentValue? at h
    split at h
    · next key value hnamed =>
      split at h
      · next hcond =>
        split at h
        · next x hx =>
          split at h
          · next hkind => exact ⟨key, value, x, hnamed, hcond.1, hcond.2, hx, hkind, Option.some.inj h⟩
          · cases h
        · cases h
      · cases h
    · cases h
  · rintro ⟨key, value, x, hnamed, hkey, hvalue, hx, hkind, rfl⟩
    simp [componentValue?, hnamed, hkey, hvalue, hx, hkind]

theorem uses_iff {t : Tree} {name : String} :
    t.Uses name ↔
      ((t.kind = "jsx_opening_element" ∨ t.kind = "jsx_self_closing_element") ∧
          t.tagName? = some name) ∨
        t.kind = "jsx_attribute" ∧ t.componentValue? = some name := by
  rw [Uses, tagName?_eq_some_iff, componentValue?_eq_some_iff]

instance (t : Tree) (name : String) : Decidable (t.Uses name) := decidable_of_iff _ uses_iff.symm

theorem usedName?_eq_some_iff {t : Tree} {name : String} :
    t.usedName? = some name ↔ t.Uses name ∧ name ≠ "" := by
  rw [uses_iff, usedName?, Option.filter_eq_some_iff]
  refine and_congr ?_ bne_iff_ne
  split
  · next hkind => simp [hkind]
  · next hkind => simp [hkind]
  · next hkind => simp [hkind]
  · next hopening hclosing hattribute =>
    have hother : t.kind ≠ "jsx_opening_element" ∧ t.kind ≠ "jsx_self_closing_element" ∧
        t.kind ≠ "jsx_attribute" := ⟨hopening, hclosing, hattribute⟩
    simp [hother]

end Tree

/-! ### First uses -/

namespace Module

/-- How many trees of a list stand before the first one that uses a name. -/
def firstUse (ts : List Tree) (name : String) : Nat := ts.findIdx fun t => t.Uses name

theorem firstUse_append {ts : List Tree} {name : String} (h : ∃ t ∈ ts, t.Uses name)
    (more : List Tree) : firstUse (ts ++ more) name = firstUse ts name := by
  rw [firstUse, firstUse, List.findIdx_append, if_pos]
  simpa using h

theorem firstUse_lt {ts : List Tree} {name : String} (h : ∃ t ∈ ts, t.Uses name) :
    firstUse ts name < ts.length := by
  rw [firstUse, List.findIdx_lt_length]
  simpa using h

theorem length_le_firstUse {ts : List Tree} {name : String} (h : ¬ ∃ t ∈ ts, t.Uses name)
    (more : List Tree) : ts.length ≤ firstUse (ts ++ more) name := by
  rw [firstUse, List.findIdx_append, if_neg (by simpa using h)]
  exact Nat.le_add_left _ _

/-- The first bindings of the names that some trees use, in the order of their first uses. -/
structure ListsUses (bs : List Binding) (ts : List Tree) (used : List Binding) : Prop where
  mem_iff : ∀ b, b ∈ used ↔
    Binding.first? bs b.name = some b ∧ b.name ≠ "" ∧ ∃ t ∈ ts, t.Uses b.name
  ordered : used.Pairwise fun b b' => firstUse ts b.name < firstUse ts b'.name

namespace ListsUses

variable {bs used : List Binding} {ts : List Tree}

theorem nil (bs : List Binding) : ListsUses bs [] [] := ⟨by simp, .nil⟩

theorem ordered_append (h : ListsUses bs ts used) (more : List Tree) :
    used.Pairwise fun b b' => firstUse (ts ++ more) b.name < firstUse (ts ++ more) b'.name := by
  refine h.ordered.imp_of_mem ?_
  intro b b' hb hb' hlt
  rwa [firstUse_append ((h.mem_iff b).mp hb).2.2, firstUse_append ((h.mem_iff b').mp hb').2.2]

theorem mem_append_iff (h : ListsUses bs ts used) (t : Tree) (b : Binding) :
    (Binding.first? bs b.name = some b ∧ b.name ≠ "" ∧ ∃ u ∈ ts ++ [t], u.Uses b.name) ↔
      b ∈ used ∨ Binding.first? bs b.name = some b ∧ b.name ≠ "" ∧ t.Uses b.name := by
  have htrees : (∃ u ∈ ts ++ [t], u.Uses b.name) ↔ (∃ u ∈ ts, u.Uses b.name) ∨ t.Uses b.name := by
    simp [or_and_right, exists_or]
  rw [h.mem_iff b, htrees, and_or_left, and_or_left]

/-- A tree that uses only what is listed changes nothing. -/
theorem keep (h : ListsUses bs ts used) {t : Tree}
    (ht : ∀ b, Binding.first? bs b.name = some b → b.name ≠ "" → t.Uses b.name → b ∈ used) :
    ListsUses bs (ts ++ [t]) used := by
  refine ⟨?_, h.ordered_append [t]⟩
  intro b
  rw [h.mem_append_iff t b]
  exact (or_iff_left_of_imp fun hb => ht b hb.1 hb.2.1 hb.2.2).symm

/-- A tree that uses the name of another binding adds it at the end. -/
theorem add (h : ListsUses bs ts used) {t : Tree} {b : Binding} (hname : t.usedName? = some b.name)
    (hfirst : Binding.first? bs b.name = some b) (hnew : b ∉ used) :
    ListsUses bs (ts ++ [t]) (used ++ [b]) := by
  obtain ⟨huses, hne⟩ := Tree.usedName?_eq_some_iff.mp hname
  constructor
  · intro b'
    rw [h.mem_append_iff t b', List.mem_append, List.mem_singleton]
    refine or_congr_right ?_
    constructor
    · rintro rfl
      exact ⟨hfirst, hne, huses⟩
    · rintro ⟨hfirst', hne', huses'⟩
      have hname' := Tree.usedName?_eq_some_iff.mpr ⟨huses', hne'⟩
      have hsame : b.name = b'.name := Option.some.inj (hname.symm.trans hname')
      rw [← hsame, hfirst] at hfirst'
      exact (Option.some.inj hfirst').symm
  · refine List.pairwise_append.mpr ⟨h.ordered_append [t], List.pairwise_singleton _ _, ?_⟩
    intro b' hb' d hd
    have hunused : ¬ ∃ u ∈ ts, u.Uses b.name :=
      fun hu => hnew ((h.mem_iff b).mpr ⟨hfirst, hne, hu⟩)
    have huses' := ((h.mem_iff b').mp hb').2.2
    rw [List.mem_singleton.mp hd, firstUse_append huses']
    exact Nat.lt_of_lt_of_le (firstUse_lt huses') (length_le_firstUse hunused [t])

theorem step (h : ListsUses bs ts used) (t : Tree) :
    ListsUses bs (ts ++ [t]) (t.usedName?.toList.foldl (addUsed bs) used) := by
  cases hname : t.usedName? with
  | none =>
    refine h.keep ?_
    intro b _ hne huses
    rw [Tree.usedName?_eq_some_iff.mpr ⟨huses, hne⟩] at hname
    cases hname
  | some name =>
    have hsame : ∀ b : Binding, b.name ≠ "" → t.Uses b.name → b.name = name := by
      intro b hne huses
      rw [Tree.usedName?_eq_some_iff.mpr ⟨huses, hne⟩] at hname
      exact Option.some.inj hname
    rw [Option.toList_some, List.foldl_cons, List.foldl_nil, addUsed]
    split
    · next b hb =>
      have hbname := name_of_first? hb
      split
      · next hlisted =>
        refine h.keep ?_
        intro b' hfirst hne huses
        rw [hsame b' hne huses, hb] at hfirst
        exact Option.some.inj hfirst ▸ List.contains_iff_mem.mp hlisted
      · next hnew =>
        refine h.add (hbname ▸ hname) (hbname ▸ hb) ?_
        exact fun hmem => hnew (List.contains_iff_mem.mpr hmem)
    · next hnone =>
      refine h.keep ?_
      intro b' hfirst hne huses
      rw [hsame b' hne huses, hnone] at hfirst
      cases hfirst

theorem run (bs : List Binding) (ts : List Tree) :
    ListsUses bs ts ((ts.filterMap Tree.usedName?).foldl (addUsed bs) []) := by
  induction ts using List.reverseRecOn with
  | nil => exact nil bs
  | append_singleton ts t ih =>
    have hlast : [t].filterMap Tree.usedName? = t.usedName?.toList := by
      cases hname : t.usedName? <;> simp [hname]
    rw [List.filterMap_append, List.foldl_append, hlast]
    exact ih.step t

end ListsUses

/-- With a binding of the name that marks modules with elements, a binding is used exactly if it is
the first of its name and the tree uses this name, and used bindings stand in the order of the first
uses; without one, nothing is used. -/
theorem usedImports_listing (m : Module) (bs : List Binding) :
    ((∃ b ∈ bs, b.name = "React") ∨ m.usedImports bs = []) ∧
    (∀ b, b ∈ m.usedImports bs ↔
      (∃ r ∈ bs, r.name = "React") ∧ Binding.first? bs b.name = some b ∧ b.name ≠ "" ∧
        ∃ t ∈ m.root.preorder, t.Uses b.name) ∧
    ((m.usedImports bs).Pairwise fun b b' =>
      firstUse m.root.preorder b.name < firstUse m.root.preorder b'.name) ∧
    ((m.usedImports bs).map (·.name)).Nodup ∧ m.usedImports bs ⊆ bs := by
  have hlists := ListsUses.run bs m.root.preorder
  have hnodup := (firstUses_usedImports m bs).nodup
  have hsub : m.usedImports bs ⊆ bs := fun _ => mem_of_mem_usedImports
  have hreact : Binding.hasReact bs = true ↔ ∃ b ∈ bs, b.name = "React" := by
    simp [Binding.hasReact, Binding.react]
  by_cases h : Binding.hasReact bs = true
  · have hused : m.usedImports bs =
        (m.root.preorder.filterMap Tree.usedName?).foldl (addUsed bs) [] := by
      rw [usedImports, if_pos h, Tree.walk_eq_preorder]
    rw [← hused] at hlists
    refine ⟨.inl (hreact.mp h), ?_, hlists.ordered, hnodup, hsub⟩
    intro b
    rw [hlists.mem_iff b, and_iff_right (hreact.mp h)]
  · have hused : m.usedImports bs = [] := by rw [usedImports, if_neg h]
    rw [hused]
    refine ⟨.inr rfl, ?_, .nil, List.nodup_nil, List.nil_subset bs⟩
    intro b
    simp [← hreact, h]

end Module

end JsxOutline
