import JsxOutline.Proofs.Containers
import Mathlib.Data.List.Forall2
import Mathlib.Data.List.Nodup

/-!
# The order of siblings

An outline sorts the children of a component by their keys.  Main statement: trees that differ in
the order of children alone, wherever that is, have the same outline, with its containers or without
them, if siblings that are shown have different keys.
-/

namespace JsxOutline.Component

/-! ### Reordering -/

/-- Trees differ in the order of children alone, at any depth. -/
inductive Reordered : Component → Component → Prop
  | node {i : Info} {cs ds es : List Component} : List.Forall₂ Reordered cs ds → ds.Perm es →
      Reordered (node i cs) (node i es)

namespace Reordered

variable {c d : Component}

theorem refl (c : Component) : c.Reordered c := by
  induction c using induction with
  | node i cs ih => exact .node (List.forall₂_same.mpr ih) (List.Perm.refl _)

theorem info_eq (h : c.Reordered d) : c.info = d.info := by
  cases h
  rfl

theorem hidden_eq (h : c.Reordered d) : c.hidden = d.hidden := by
  rw [hidden, hidden, h.info_eq]

theorem marked (h : c.Reordered d) : c.marked.Reordered d.marked := by
  cases h with
  | node hbelow hperm => exact .node hbelow hperm

theorem visible (h : c.Reordered d) :
    ∃ es, List.Forall₂ Reordered c.visible es ∧ es.Perm d.visible := by
  cases h with
  | node hbelow hperm =>
    refine ⟨_, List.rel_filter ?_ hbelow, hperm.filter _⟩
    intro e f h
    simp [h.hidden_eq]

/-- A single child has no other order, so a container stays one. -/
theorem wrapped? (h : c.Reordered d) : Option.Rel Reordered c.wrapped? d.wrapped? := by
  cases h with
  | @node i cs ds es hbelow hperm =>
    rcases hbelow with _ | ⟨hfirst, _ | ⟨hsecond, hrest⟩⟩
    · rw [List.nil_perm.mp hperm]
      exact .none
    · rw [← List.singleton_perm.mp hperm, Component.wrapped?, Component.wrapped?, hfirst.hidden_eq]
      split
      · exact .some hfirst
      · exact .none
    · have hlength := hperm.length_eq
      rcases es with _ | ⟨e, _ | ⟨f, es⟩⟩
      · cases hlength
      · cases hlength
      · exact .none

theorem collapse (h : c.Reordered d) : c.collapse.Reordered d.collapse := by
  have hwrapped := h.wrapped?
  fun_induction Component.collapse c generalizing d with
  | case1 c e hc ih =>
    rw [hc] at hwrapped
    cases hd : d.wrapped? with
    | none =>
      rw [hd] at hwrapped
      cases hwrapped
    | some f =>
      rw [hd] at hwrapped
      cases hwrapped with
      | some hbelow =>
        rw [collapse_of_some hd]
        exact ih hbelow.marked hbelow.marked.wrapped?
  | case2 c hc =>
    rw [hc] at hwrapped
    cases hd : d.wrapped? with
    | none => rwa [collapse_of_none hd]
    | some f =>
      rw [hd] at hwrapped
      cases hwrapped

theorem shown (h : c.Reordered d) (hideContainers : Bool) :
    (c.shown hideContainers).Reordered (d.shown hideContainers) := by
  cases hideContainers with
  | false => exact h
  | true => exact h.collapse

end Reordered

/-! ### Sorting -/

theorem pairwise_arranged {α : Type} (entries : List (String × α)) :
    (entries.mergeSort fun a b => a.1 ≤ b.1).Pairwise fun a b => a.1 ≤ b.1 := by
  have htrans : ∀ a b c : String × α, decide (a.1 ≤ b.1) = true → decide (b.1 ≤ c.1) = true →
      decide (a.1 ≤ c.1) = true := by
    intro a b c hab hbc
    exact decide_eq_true (String.le_trans (of_decide_eq_true hab) (of_decide_eq_true hbc))
  have htotal : ∀ a b : String × α, (decide (a.1 ≤ b.1) || decide (b.1 ≤ a.1)) = true := by
    intro a b
    simpa using String.le_total a.1 b.1
  exact (List.pairwise_mergeSort htrans htotal entries).imp of_decide_eq_true

/-- Values with different keys are sorted the same way whatever order they come in. -/
theorem arrange_eq_of_perm {α : Type} {entries entries' : List (String × α)}
    (hperm : entries.Perm entries') (hkeys : (entries.map Prod.fst).Nodup) :
    arrange entries = arrange entries' := by
  have hsorted := List.mergeSort_perm entries fun a b => a.1 ≤ b.1
  have hsorted' := List.mergeSort_perm entries' fun a b => a.1 ≤ b.1
  rw [arrange, arrange]
  refine congrArg (List.map Prod.snd) ?_
  refine List.Perm.eq_of_pairwise ?_ (pairwise_arranged entries) (pairwise_arranged entries')
    ((hsorted.trans hperm).trans hsorted'.symm)
  intro a b ha hb hab hba
  have ha' := hsorted.mem_iff.mp ha
  have hb' := hperm.mem_iff.mpr (hsorted'.mem_iff.mp hb)
  exact List.inj_on_of_nodup_map hkeys ha' hb' (String.le_antisymm hab hba)

-- Values with one key stay as they come.
example : arrange [("A", 2), ("A", 1)] = [2, 1] := by cbv

/-! ### Outlines -/

/-- The components that an outline draws, parents first. -/
def drawn (hideContainers : Bool) (c : Component) : List Component :=
  c.shown hideContainers ::
    (c.shown hideContainers).visible.attach.flatMap fun ⟨d, _⟩ => drawn hideContainers d
termination_by c.size
decreasing_by exact size_lt_of_mem_visible (by assumption)

theorem drawn_eq (hideContainers : Bool) (c : Component) :
    c.drawn hideContainers =
      c.shown hideContainers ::
        (c.shown hideContainers).visible.flatMap (drawn hideContainers) := by
  rw [drawn]
  simp

/-- The keys by which the children of a component are sorted where it is drawn. -/
def childKeys (hideContainers : Bool) (c : Component) : List String :=
  c.visible.map fun d => (d.shown hideContainers).sortKey

/-- Siblings that an outline draws have different keys. -/
def HasDistinctKeys (hideContainers : Bool) (c : Component) : Prop :=
  ∀ d ∈ c.drawn hideContainers, (d.childKeys hideContainers).Nodup

theorem hasDistinctKeys_iff {hideContainers : Bool} {c : Component} :
    c.HasDistinctKeys hideContainers ↔
      ((c.shown hideContainers).childKeys hideContainers).Nodup ∧
        ∀ d ∈ (c.shown hideContainers).visible, d.HasDistinctKeys hideContainers := by
  rw [HasDistinctKeys, drawn_eq, List.forall_mem_cons]
  refine and_congr_right fun _ => ?_
  constructor
  · intro h d hd e he
    exact h e (List.mem_flatMap.mpr ⟨d, hd, he⟩)
  · intro h e he
    obtain ⟨d, hd, he⟩ := List.mem_flatMap.mp he
    exact h d hd e he

/-- What is drawn for a child, with the key by which it is sorted. -/
def entry (hideContainers : Bool) (c : Component) : String × Outline :=
  ((c.shown hideContainers).sortKey, c.outline hideContainers)

theorem outline_eq_arrange (hideContainers : Bool) (c : Component) :
    c.outline hideContainers = .item (c.shown hideContainers).label
      (arrange ((c.shown hideContainers).visible.map (entry hideContainers))) :=
  outline_eq hideContainers c

theorem map_fst_entry (hideContainers : Bool) (c : Component) :
    ((c.visible.map (entry hideContainers)).map Prod.fst) = c.childKeys hideContainers := by
  rw [List.map_map]
  rfl

theorem Reordered.outline_eq {c d : Component} (h : c.Reordered d) {hideContainers : Bool}
    (hkeys : c.HasDistinctKeys hideContainers) :
    c.outline hideContainers = d.outline hideContainers := by
  obtain ⟨hdistinct, hkeysBelow⟩ := hasDistinctKeys_iff.mp hkeys
  have hshown := h.shown hideContainers
  obtain ⟨es, hbelow, hperm⟩ := hshown.visible
  have heach : ∀ e ∈ (c.shown hideContainers).visible, ∀ f, e.Reordered f →
      entry hideContainers e = entry hideContainers f := by
    intro e he f hef
    have hlt := size_lt_of_mem_visible he
    have hkey := sortKey_congr (hef.shown hideContainers).info_eq
    have houtline := hef.outline_eq (hkeysBelow e he)
    rw [entry, entry, hkey, houtline]
  have hentries : (c.shown hideContainers).visible.map (entry hideContainers) =
      es.map (entry hideContainers) := by
    have hsame := (List.forall₂_and_left _ _).mpr ⟨heach, hbelow⟩
    rw [← List.forall₂_eq_eq_eq, List.forall₂_map_left_iff, List.forall₂_map_right_iff]
    exact hsame.imp fun e f h => h.1 f h.2
  have hfst : (es.map (entry hideContainers)).map Prod.fst =
      (c.shown hideContainers).childKeys hideContainers := by
    rw [← hentries, map_fst_entry]
  rw [outline_eq_arrange, outline_eq_arrange, label_congr hshown.info_eq, hentries,
    arrange_eq_of_perm (hperm.map _) (hfst ▸ hdistinct)]
termination_by c.size

/-- Trees that differ in the order of children alone have one text, if siblings that are drawn have
different keys. -/
theorem render_reordered {c d : Component} (h : c.Reordered d) (hideContainers : Bool)
    (hkeys : c.HasDistinctKeys hideContainers) :
    c.render hideContainers = d.render hideContainers :=
  congrArg Outline.text (h.outline_eq hkeys)

/-- A component with others below it, one in a container, and a hidden one with the same key. -/
def shelf : Component :=
  node { name := "App" } [
    node { name := "Zeta", shownSource := "lib" } [leaf { name := "b" }, leaf { name := "a" }],
    leaf { name := "zeta", shownSource := "Lib", hidden := true },
    node { name := "Box", shownSource := "src", unwrapped := true } [
      leaf { name := "Eta", shownSource := "lib" }]]

def shelfReordered : Component :=
  node { name := "App" } [
    leaf { name := "zeta", shownSource := "Lib", hidden := true },
    node { name := "Zeta", shownSource := "lib" } [leaf { name := "a" }, leaf { name := "b" }],
    node { name := "Box", shownSource := "src", unwrapped := true } [
      leaf { name := "Eta", shownSource := "lib" }]]

theorem reordered_shelf : shelf.Reordered shelfReordered := by
  have hbelow : List.Forall₂ Reordered [leaf { name := "b" }, leaf { name := "a" }]
      [leaf { name := "b" }, leaf { name := "a" }] := List.forall₂_same.mpr fun c _ => .refl c
  have hfirst := Reordered.node (i := { name := "Zeta", shownSource := "lib" }) hbelow
    (List.Perm.swap _ _ _)
  exact .node (.cons hfirst (.cons (.refl _) (.cons (.refl _) .nil))) (List.Perm.swap _ _ _)

theorem render_reordered_shelf :
    shelf.Reordered shelfReordered ∧ shelf.HasDistinctKeys true ∧
      shelf.render true = shelfReordered.render true := by
  have hkeys : shelf.HasDistinctKeys true := by
    unfold HasDistinctKeys
    decide +kernel
  exact ⟨reordered_shelf, hkeys, render_reordered reordered_shelf true hkeys⟩

end JsxOutline.Component
