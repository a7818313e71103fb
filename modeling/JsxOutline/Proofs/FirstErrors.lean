import JsxOutline.Module
import Mathlib.Order.Basic

/-!
# The first error of a module

A walk comes to the nodes of a tree by their places in the text, if each node stands within its
parent and after the one before it.  Main statement: the place that is reported of a tree with
errors is that of an error, and no other error lies before it.
-/

namespace JsxOutline

open JsxOutline.Text (Place)

/-! ### Places in order -/

/-- Places come line by line, and on a line column by column. -/
instance Text.Place.preorder : Preorder Place where
  le p q := p.line < q.line ∨ p.line = q.line ∧ p.column ≤ q.column
  le_refl p := .inr ⟨rfl, Nat.le_refl _⟩
  le_trans p q r hpq hqr := by omega

theorem Text.Place.le_iff {p q : Place} :
    p ≤ q ↔ p.line < q.line ∨ p.line = q.line ∧ p.column ≤ q.column := Iff.rfl

instance (p q : Place) : Decidable (p ≤ q) := decidable_of_iff _ Text.Place.le_iff.symm

namespace Tree

def place (t : Tree) : Place := t.label.place

mutual

/-- A tree ends by a place, and its children stand in it one after the other. -/
def EndsBy : Tree → Place → Prop
  | node l cs, stop => Stand l.place cs stop

/-- Trees stand between two places, each one where the one before it has ended, or later. -/
def Stand : Place → List Tree → Place → Prop
  | start, [], stop => start ≤ stop
  | start, t :: ts, stop => start ≤ t.place ∧ ∃ next, EndsBy t next ∧ Stand next ts stop

end

/-- A tree as it is read from a text: its nodes stand in the order of the text, and a node is marked
if it is an error or has one below it. -/
structure IsOfText (root : Tree) : Prop where
  inOrder : ∃ stop, EndsBy root stop
  marked : ∀ t ∈ root.preorder, t.hasError = true ↔ ∃ u ∈ t.preorder, u.isError = true

mutual

theorem between_of_endsBy : ∀ {t : Tree} {stop : Place}, EndsBy t stop →
    t.place ≤ stop ∧ ∀ u ∈ t.preorder, t.place ≤ u.place ∧ u.place ≤ stop
  | node l cs, stop, h => by
    obtain ⟨hstop, hbelow⟩ := between_of_stand h
    refine ⟨hstop, ?_⟩
    rw [preorder]
    exact List.forall_mem_cons.mpr ⟨⟨le_refl _, hstop⟩, hbelow⟩

theorem between_of_stand : ∀ {ts : List Tree} {start stop : Place}, Stand start ts stop →
    start ≤ stop ∧ ∀ u ∈ preorderAll ts, start ≤ u.place ∧ u.place ≤ stop
  | [], start, stop, h => ⟨h, nofun⟩
  | t :: ts, start, stop, h => by
    obtain ⟨hstart, next, hfirst, hrest⟩ := h
    obtain ⟨hnext, hin⟩ := between_of_endsBy hfirst
    obtain ⟨hstop, hafter⟩ := between_of_stand hrest
    have hbefore : start ≤ next := hstart.trans hnext
    refine ⟨hbefore.trans hstop, ?_⟩
    rw [preorderAll]
    refine List.forall_mem_append.mpr ⟨?_, ?_⟩
    · intro u hu
      exact ⟨hstart.trans (hin u hu).1, (hin u hu).2.trans hstop⟩
    · intro u hu
      exact ⟨hbefore.trans (hafter u hu).1, (hafter u hu).2⟩

end

mutual

/-- The nodes are listed by their places. -/
theorem pairwise_preorder : ∀ {t : Tree} {stop : Place}, EndsBy t stop →
    t.preorder.Pairwise fun u v => u.place ≤ v.place
  | node l cs, stop, h => by
    rw [preorder, List.pairwise_cons]
    exact ⟨fun u hu => ((between_of_stand h).2 u hu).1, pairwise_preorderAll h⟩

theorem pairwise_preorderAll : ∀ {ts : List Tree} {start stop : Place}, Stand start ts stop →
    (preorderAll ts).Pairwise fun u v => u.place ≤ v.place
  | [], _, _, _ => List.Pairwise.nil
  | t :: ts, start, stop, h => by
    obtain ⟨-, next, hfirst, hrest⟩ := h
    rw [preorderAll, List.pairwise_append]
    refine ⟨pairwise_preorder hfirst, pairwise_preorderAll hrest, ?_⟩
    intro u hu v hv
    exact ((between_of_endsBy hfirst).2 u hu).2.trans ((between_of_stand hrest).2 v hv).1

end

/-- A place where an error lies, and before which there is none. -/
structure IsFirstError (root : Tree) (place : Place) : Prop where
  hit : ∃ u ∈ root.preorder, u.isError = true ∧ u.place = place
  first : ∀ u ∈ root.preorder, u.isError = true → place ≤ u.place

variable {root : Tree}

/-- What the walk comes to first among the errors lies before the others. -/
theorem isFirstError_of_firstError? {u : Tree} {stop : Place} (horder : EndsBy root stop)
    (h : root.firstError? = some u) : root.IsFirstError u.place := by
  rw [firstError?, walk_eq_preorder, List.find?_eq_some_iff_append] at h
  obtain ⟨hu, before, after, hlist, hbefore⟩ := h
  have hsorted := pairwise_preorder horder
  rw [hlist, List.pairwise_append, List.pairwise_cons] at hsorted
  refine ⟨⟨u, ?_, hu, rfl⟩, ?_⟩
  · rw [hlist]
    exact List.mem_append_right _ List.mem_cons_self
  · intro v hv herror
    rw [hlist] at hv
    rcases List.mem_append.mp hv with hv | hv
    · have hnone := hbefore v hv
      rw [herror] at hnone
      cases hnone
    · rcases List.mem_cons.mp hv with rfl | hv
      · exact le_refl _
      · exact hsorted.2.1.1 v hv

theorem IsOfText.exists_firstError? (h : root.IsOfText) (herror : root.hasError = true) :
    ∃ u, root.firstError? = some u := by
  obtain ⟨u, hu, herror⟩ := (h.marked root (mem_preorder_self root)).mp herror
  rw [firstError?, walk_eq_preorder, ← Option.isSome_iff_exists, List.find?_isSome]
  exact ⟨u, hu, herror⟩

/-- The place of the fault is that of the first error. -/
theorem IsOfText.isFirstError_faultOf (h : root.IsOfText) (herror : root.hasError = true)
    (file : String) : root.IsFirstError (Module.faultOf file root).place := by
  obtain ⟨u, hu⟩ := h.exists_firstError? herror
  obtain ⟨stop, horder⟩ := h.inOrder
  rw [Module.faultOf, hu]
  exact isFirstError_of_firstError? horder hu

theorem mem_preorder_of_mem_named {s : Tree} (h : s ∈ root.named) : s ∈ root.preorder := by
  rw [preorder_eq]
  exact List.mem_cons_of_mem _
    (List.mem_flatMap.mpr ⟨s, (List.mem_filter.mp h).1, mem_preorder_self s⟩)

end Tree

namespace Module

/-- A statement with which nothing can be done. -/
def IsUseless (s : Tree) : Prop :=
  s.kind = "ERROR" ∨ s.kind = "comment" ∨ s.kind = "empty_statement" ∨
    ∃ u ∈ s.preorder, u.isError = true

theorem isUsable_eq_false_iff {s : Tree}
    (hmarked : s.hasError = true ↔ ∃ u ∈ s.preorder, u.isError = true) :
    isUsable s = false ↔ IsUseless s := by
  rw [IsUseless, ← hmarked, isUsable]
  simp only [Bool.and_eq_false_iff, Bool.not_eq_false', List.contains_iff_mem, List.mem_cons,
    List.not_mem_nil, or_false, or_assoc]

theorem isEmpty_usable_iff {root : Tree} (h : root.IsOfText) :
    (usable root).isEmpty = true ↔ ∀ s ∈ root.named, IsUseless s := by
  rw [List.isEmpty_iff, usable, List.filter_eq_nil_iff]
  refine forall₂_congr fun s hs => ?_
  have hmarked := h.marked s (Tree.mem_preorder_of_mem_named hs)
  rw [Bool.not_eq_true, isUsable_eq_false_iff hmarked]

/-- The words for the place of an error, with lines and columns counted from one. -/
def errorWords (place : Place) : String :=
  s!"syntax error at line {place.line + 1}, column {place.column + 1}"

variable {parser : Parser} {source : String}

/-- Parsing fails exactly if there are errors and no statement can be used.  Where there are errors,
the place of the first one is in the message of the failure, or else in the only warning; without
errors there is no warning. -/
theorem parse_firstError (h : (parser source).IsOfText) (file : String) :
    ((∃ fault, (parse parser source file).result = .error fault) ↔
        (parser source).hasError = true ∧ ∀ s ∈ (parser source).named, IsUseless s) ∧
      ((parser source).hasError = true → ∃ place, (parser source).IsFirstError place ∧
        ((∃ fault, (parse parser source file).result = .error fault ∧
            fault.message = s!"Could not parse {file}: " ++ errorWords place ∧
            (parse parser source file).warnings = []) ∨
          (parse parser source file).result = .ok ⟨file, parser source⟩ ∧
            (parse parser source file).warnings =
              [s!"Partially parsed {file}: " ++ errorWords place])) ∧
      ((parser source).hasError = false →
        (parse parser source file).result = .ok ⟨file, parser source⟩ ∧
          (parse parser source file).warnings = []) := by
  refine ⟨?_, ?_, ?_⟩
  · rw [← isEmpty_usable_iff h, parse_result]
    by_cases hfails : (parser source).hasError = true ∧ (usable (parser source)).isEmpty = true
    · rw [if_pos hfails]
      exact iff_of_true ⟨_, rfl⟩ hfails
    · rw [if_neg hfails]
      exact iff_of_false (by simp) hfails
  · intro herror
    refine ⟨_, h.isFirstError_faultOf herror file, ?_⟩
    cases husable : (usable (parser source)).isEmpty with
    | true =>
      rw [parse_of_unusable file herror husable]
      exact .inl ⟨_, rfl, rfl, rfl⟩
    | false =>
      rw [parse_of_usable file herror husable]
      exact .inr ⟨rfl, rfl⟩
  · intro hsound
    rw [parse_of_sound file hsound]
    exact ⟨rfl, rfl⟩

/-- A call that is not closed, a bracket on the next line that was not opened, and what follows. -/
def openCall (more : List Tree) : Tree :=
  .node { kind := "program", faulty := true }
    (.node { kind := "expression_statement", faulty := true }
        [.node { kind := "identifier", text := "f" } [],
         .node { kind := "arguments", faulty := true, place := ⟨0, 1⟩ }
          [.node { kind := "(", named := false, place := ⟨0, 1⟩ } [],
           .node { kind := ")", named := false, missing := true, faulty := true, place := ⟨0, 2⟩ } []]] ::
      .node { kind := "ERROR", faulty := true, place := ⟨1, 0⟩ } [] :: more)

def laterStatement : Tree := .node { kind := "expression_statement", place := ⟨2, 0⟩ } []

theorem isOfText_openCall {more : List Tree} (h : more = [] ∨ more = [laterStatement]) :
    (openCall more).IsOfText := by
  have hleaf : ∀ {l : Label} {stop : Place}, l.place ≤ stop → Tree.EndsBy (.node l []) stop := id
  have hlast : ∀ {start stop : Place}, start ≤ stop → Tree.Stand start [] stop := id
  have hmore : Tree.Stand ⟨1, 1⟩ more ⟨2, 1⟩ := by
    rcases h with rfl | rfl
    · exact hlast (by decide)
    · exact ⟨by decide, ⟨2, 1⟩, hleaf (by decide), hlast (by decide)⟩
  refine ⟨⟨⟨2, 1⟩, by decide, ⟨0, 2⟩, ⟨by decide, ⟨0, 1⟩, hleaf (by decide), by decide, ⟨0, 2⟩, ?_,
    hlast (by decide)⟩, by decide, ⟨1, 1⟩, hleaf (by decide), hmore⟩, ?_⟩
  · exact ⟨by decide, ⟨0, 2⟩, hleaf (by decide), by decide, ⟨0, 2⟩, hleaf (by decide),
      hlast (by decide)⟩
  · rcases h with rfl | rfl <;> decide +kernel

/-- The bracket that is missing is the first error, whether or not a statement can be used. -/
theorem parse_firstError_openCall :
    (openCall []).IsOfText ∧
      (∃ fault, (parse (fun _ => openCall []) "" "A.js").result = .error fault) ∧
      (openCall [laterStatement]).IsOfText ∧
      (openCall [laterStatement]).hasError = true ∧
      ∃ place, (openCall [laterStatement]).IsFirstError place ∧
        (parse (fun _ => openCall [laterStatement]) "" "A.js").warnings =
          ["Partially parsed A.js: " ++ errorWords place] := by
  have hnone := isOfText_openCall (.inl rfl)
  have hone := isOfText_openCall (.inr rfl)
  have huseless : ∀ s ∈ (openCall []).named, IsUseless s := by
    intro s hs
    refine (isUsable_eq_false_iff (hnone.marked s (Tree.mem_preorder_of_mem_named hs))).mp ?_
    revert s
    decide +kernel
  have hfails := (@parse_firstError (fun _ => openCall []) "" hnone "A.js").1
  have hfirst := (@parse_firstError (fun _ => openCall [laterStatement]) "" hone "A.js").2.1 rfl
  refine ⟨hnone, hfails.mpr ⟨rfl, huseless⟩, hone, rfl, ?_⟩
  obtain ⟨place, hplace, ⟨fault, hfault, -⟩ | ⟨-, hwarnings⟩⟩ := hfirst
  · have hreturns : (parse (fun _ => openCall [laterStatement]) "" "A.js").result =
        .ok ⟨"A.js", openCall [laterStatement]⟩ := by
      rw [parse_result, if_neg (by decide +kernel)]
    rw [hreturns] at hfault
    cases hfault
  · exact ⟨place, hplace, hwarnings⟩

end Module

end JsxOutline
