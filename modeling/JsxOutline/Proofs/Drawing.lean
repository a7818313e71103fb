import JsxOutline.Outline

/-!
# Texts of outlines

Each line of the text of an outline draws the place of one item: a branch before the item, and a
stem for each item above it.  Main statements: the lines are those of the items, parents first, and
an outline can be read back from its text if none of its lines is broken.
-/

namespace JsxOutline

namespace Outline

/-! ### Places of items -/

/-- What an item says and where it stands: the items on the way down to it, the root apart, each as
its index among its siblings and how many these are. -/
structure Entry where
  place : List (Nat × Nat)
  line : String
deriving DecidableEq, Repr

mutual

/-- The items of an outline that stands at a place, parents first. -/
def entriesAt (place : List (Nat × Nat)) : Outline → List Entry
  | item line below => ⟨place, line⟩ :: entriesFrom place below.length 0 below

/-- The items of the siblings below a place from an index on. -/
def entriesFrom (place : List (Nat × Nat)) (count index : Nat) : List Outline → List Entry
  | [] => []
  | o :: os => entriesAt (place ++ [(index, count)]) o ++ entriesFrom place count (index + 1) os

end

def entries (o : Outline) : List Entry := entriesAt [] o

mutual

theorem length_entriesAt (place : List (Nat × Nat)) :
    ∀ o : Outline, (entriesAt place o).length = o.size
  | item line below => by simp [entriesAt, size, length_entriesFrom _ _ _ below]

theorem length_entriesFrom (place : List (Nat × Nat)) (count index : Nat) :
    ∀ os : List Outline, (entriesFrom place count index os).length = sizeAll os
  | [] => rfl
  | o :: os => by
    simp [entriesFrom, sizeAll, length_entriesAt _ o, length_entriesFrom _ _ _ os]

end

/-! ### Drawing places -/

def isLast (p : Nat × Nat) : Bool := p.1 + 1 == p.2

/-- What stands before the lines below a place. -/
def stems : List (Nat × Nat) → String
  | [] => ""
  | p :: place => stem (isLast p) ++ stems place

/-- What stands before the line at a place: a stem for each item above it and a branch for the item
itself. -/
def frame : List (Nat × Nat) → String
  | [] => ""
  | [p] => branch (isLast p)
  | p :: place => stem (isLast p) ++ frame place

def Entry.text (e : Entry) : String := frame e.place ++ e.line

theorem stems_concat (place : List (Nat × Nat)) (p : Nat × Nat) :
    stems (place ++ [p]) = stems place ++ stem (isLast p) := by
  induction place with
  | nil => exact (String.append_empty).trans (String.empty_append).symm
  | cons q place ih => rw [List.cons_append, stems, ih, stems, String.append_assoc]

theorem frame_concat (place : List (Nat × Nat)) (p : Nat × Nat) :
    frame (place ++ [p]) = stems place ++ branch (isLast p) := by
  induction place with
  | nil => rw [List.nil_append, frame, stems, String.empty_append]
  | cons q place ih =>
    rw [List.cons_append, frame, ih, stems, String.append_assoc]
    exact List.concat_ne_nil _ _

mutual

theorem itemLines_eq (place : List (Nat × Nat)) (p : Nat × Nat) :
    ∀ o : Outline, itemLines (stems place) (isLast p) o =
      (entriesAt (place ++ [p]) o).map Entry.text
  | item line below => by
    rw [itemLines, entriesAt, List.map_cons, Entry.text, frame_concat, ← stems_concat,
      linesBelow_eq (place ++ [p]) below (Nat.zero_add _)]

theorem linesBelow_eq (place : List (Nat × Nat)) {count index : Nat} :
    ∀ os : List Outline, index + os.length = count →
      linesBelow (stems place) os = (entriesFrom place count index os).map Entry.text
  | [], _ => rfl
  | o :: os, h => by
    have hlast : os.isEmpty = isLast (index, count) := by
      rw [List.length_cons] at h
      rw [Bool.eq_iff_iff, List.isEmpty_iff_length_eq_zero, isLast, beq_iff_eq]
      omega
    have hrest : index + 1 + os.length = count := by
      rw [← h, List.length_cons]
      omega
    rw [linesBelow, entriesFrom, List.map_append, hlast, itemLines_eq place (index, count) o,
      linesBelow_eq place os hrest]

end

/-- An outline has one line for each of its items, which draws the place of the item. -/
theorem lines_eq (o : Outline) : o.lines = o.entries.map Entry.text := by
  cases o with
  | item line below =>
    have hbelow := linesBelow_eq [] below (Nat.zero_add _)
    rw [lines, entries, entriesAt, List.map_cons, ← hbelow, Entry.text, frame, stems,
      String.empty_append]

/-! ### Lines that are not broken -/

/-- No item says something that goes over more than one line. -/
def IsUnbroken (o : Outline) : Prop := ∀ e ∈ o.entries, '\n' ∉ e.line.toList

instance : DecidablePred IsUnbroken := fun o =>
  inferInstanceAs (Decidable (∀ e ∈ o.entries, '\n' ∉ e.line.toList))

theorem newline_not_mem_frame (place : List (Nat × Nat)) : '\n' ∉ (frame place).toList := by
  have hbranch : ∀ last, '\n' ∉ (branch last).toList := by decide
  have hstem : ∀ last, '\n' ∉ (stem last).toList := by decide
  induction place using frame.induct with
  | case1 => decide
  | case2 p => exact hbranch _
  | case3 p place hplace ih =>
    rw [frame, String.toList_append, List.mem_append, not_or]
    · exact ⟨hstem _, ih⟩
    · exact hplace

theorem splitOn_text {o : Outline} (h : o.IsUnbroken) :
    o.text.toList.splitOn '\n' = o.entries.map fun e => e.text.toList := by
  have hlines : o.lines.map String.toList = o.entries.map fun e => e.text.toList := by
    rw [lines_eq, List.map_map]
    rfl
  have hne : o.lines.map String.toList ≠ [] := by
    cases o
    exact List.cons_ne_nil _ _
  rw [← hlines, text, String.toList_intercalate]
  refine List.splitOn_intercalate '\n' ?_ hne
  rw [hlines, List.forall_mem_map]
  intro e he
  rw [Entry.text, String.toList_append, List.mem_append, not_or]
  exact ⟨newline_not_mem_frame _, h e he⟩

/-! ### Reading -/

/-- How deep the item of a line below the root stands, and what it says. -/
def readLine : List Char → Option (Nat × String)
  | '├' :: '─' :: '─' :: ' ' :: line | '└' :: '─' :: '─' :: ' ' :: line => some (1, .ofList line)
  | '│' :: ' ' :: ' ' :: ' ' :: line | ' ' :: ' ' :: ' ' :: ' ' :: line =>
    (readLine line).map fun e => (e.1 + 1, e.2)
  | _ => none

/-- Puts an item above the outlines after it that stand deeper. -/
def adopt (e : Nat × String) (later : List (Nat × Outline)) : List (Nat × Outline) :=
  (e.1, item e.2 ((later.takeWhile (e.1 < ·.1)).map Prod.snd)) :: later.dropWhile (e.1 < ·.1)

/-- The outline with a text. -/
def ofText? (text : String) : Option Outline :=
  match text.toList.splitOn '\n' with
  | [] => none
  | root :: lines => (lines.mapM readLine).map fun es =>
    item (.ofList root) ((es.foldr adopt []).map Prod.snd)

def Entry.deep (e : Entry) : Nat × String := (e.place.length, e.line)

theorem readLine_branch (last : Bool) (line : String) :
    readLine (branch last ++ line).toList = some (1, line) := by
  cases last <;> simp [branch, readLine]

theorem readLine_stem (last : Bool) (line : String) :
    readLine (stem last ++ line).toList =
      (readLine line.toList).map fun e => (e.1 + 1, e.2) := by
  cases last <;> simp [stem, readLine]

theorem readLine_text {e : Entry} (h : e.place ≠ []) : readLine e.text.toList = some e.deep := by
  obtain ⟨place, line⟩ := e
  rw [Entry.text, Entry.deep]
  dsimp only at h ⊢
  induction place using frame.induct with
  | case1 => exact absurd rfl h
  | case2 p => exact readLine_branch _ _
  | case3 p place hplace ih =>
    rw [frame, String.append_assoc, readLine_stem, ih hplace]
    · rfl
    · exact hplace

mutual

theorem place_ne_nil_of_mem_entriesAt {place : List (Nat × Nat)} (hplace : place ≠ []) {e : Entry} :
    ∀ {o : Outline}, e ∈ entriesAt place o → e.place ≠ []
  | item line below, he => by
    rw [entriesAt] at he
    cases he with
    | head => exact hplace
    | tail _ he => exact place_ne_nil_of_mem_entriesFrom he

theorem place_ne_nil_of_mem_entriesFrom {place : List (Nat × Nat)} {count index : Nat} {e : Entry} :
    ∀ {os : List Outline}, e ∈ entriesFrom place count index os → e.place ≠ []
  | o :: os, he => by
    rw [entriesFrom] at he
    rcases List.mem_append.mp he with he | he
    · exact place_ne_nil_of_mem_entriesAt (List.concat_ne_nil _ _) he
    · exact place_ne_nil_of_mem_entriesFrom he

end

theorem map_snd_standing (level : Nat) (os : List Outline) :
    (os.map (level, ·)).map Prod.snd = os := by
  rw [List.map_map]
  exact List.map_id'' (fun _ => rfl) os

/-- Nothing at the head of a list stands deeper than a level. -/
def Shallow (level : Nat) (later : List (Nat × Outline)) : Prop :=
  ∀ t ∈ later.head?, t.1 ≤ level

theorem adopt_append {level : Nat} {below later : List (Nat × Outline)} (line : String)
    (hbelow : ∀ t ∈ below, level < t.1) (hlater : Shallow level later) :
    adopt (level, line) (below ++ later) = (level, item line (below.map Prod.snd)) :: later := by
  have hstop : later.takeWhile (level < ·.1) = [] ∧ later.dropWhile (level < ·.1) = later := by
    cases later with
    | nil => exact ⟨rfl, rfl⟩
    | cons t later =>
      have hhead : ¬ decide (level < t.1) = true := by
        rw [decide_eq_true_iff, Nat.not_lt]
        exact hlater t rfl
      exact ⟨List.takeWhile_cons_of_neg hhead, List.dropWhile_cons_of_neg hhead⟩
  have hall : ∀ t ∈ below, decide (level < t.1) = true := fun t ht => decide_eq_true (hbelow t ht)
  rw [adopt, List.takeWhile_append_of_pos hall, List.dropWhile_append_of_pos hall, hstop.1,
    hstop.2, List.append_nil]

-- The lines are read from the last to the first.  What was read after an outline begins at its
-- level or higher, so the outline takes none of that below itself.
mutual

theorem foldr_entriesAt (place : List (Nat × Nat)) {later : List (Nat × Outline)} :
    ∀ o : Outline, Shallow place.length later →
      ((entriesAt place o).map Entry.deep).foldr adopt later = (place.length, o) :: later
  | item line below, h => by
    have hdeeper : Shallow (place.length + 1) later := fun t ht => Nat.le_succ_of_le (h t ht)
    have hbelow : ∀ t ∈ below.map (place.length + 1, ·), place.length < t.1 :=
      List.forall_mem_map.mpr fun _ _ => Nat.lt_succ_self _
    rw [entriesAt, List.map_cons, List.foldr_cons,
      foldr_entriesFrom place below.length 0 below hdeeper, Entry.deep,
      adopt_append line hbelow h, map_snd_standing]

theorem foldr_entriesFrom (place : List (Nat × Nat)) (count index : Nat)
    {later : List (Nat × Outline)} :
    ∀ os : List Outline, Shallow (place.length + 1) later →
      ((entriesFrom place count index os).map Entry.deep).foldr adopt later =
        os.map (place.length + 1, ·) ++ later
  | [], _ => rfl
  | o :: os, h => by
    have hnext : Shallow (place ++ [(index, count)]).length
        (os.map (place.length + 1, ·) ++ later) := by
      rw [List.length_append, List.length_singleton]
      cases os with
      | nil => exact h
      | cons o os =>
        rintro _ ⟨⟩
        exact Nat.le_refl _
    rw [entriesFrom, List.map_append, List.foldr_append,
      foldr_entriesFrom place count (index + 1) os h, foldr_entriesAt _ o hnext,
      List.length_append, List.length_singleton]
    rfl

end

theorem mapM_readLine {es : List Entry} (h : ∀ e ∈ es, e.place ≠ []) :
    (es.map fun e => e.text.toList).mapM readLine = some (es.map Entry.deep) := by
  induction es with
  | nil => rfl
  | cons e es ih =>
    obtain ⟨he, hes⟩ := List.forall_mem_cons.mp h
    rw [List.map_cons, List.mapM_cons, readLine_text he, ih hes]
    rfl

/-- An outline can be read back from its text. -/
theorem ofText?_text {o : Outline} (h : o.IsUnbroken) : ofText? o.text = some o := by
  cases o with
  | item line below =>
    have hsplit := splitOn_text h
    have hroot : String.ofList (Entry.text ⟨[], line⟩).toList = line := by
      rw [String.ofList_toList, Entry.text, frame, String.empty_append]
    have hplace : ∀ e ∈ entriesFrom [] below.length 0 below, e.place ≠ [] :=
      fun e he => place_ne_nil_of_mem_entriesFrom he
    have hbelow : ((entriesFrom [] below.length 0 below).map Entry.deep).foldr adopt [] =
        below.map (1, ·) ++ [] :=
      foldr_entriesFrom [] below.length 0 below nofun
    rw [entries, entriesAt, List.map_cons] at hsplit
    rw [ofText?, hsplit]
    dsimp only
    rw [mapM_readLine hplace, Option.map_some, hbelow, List.append_nil, map_snd_standing, hroot]

end Outline

namespace Component

theorem outline_leaf (i : Info) (hide : Bool) :
    (leaf i).outline hide = .item (leaf i).label [] := by
  have hshown : (leaf i).shown hide = leaf i := by
    cases hide with
    | false => rfl
    | true => exact collapse_of_none rfl
  have hvisible : (leaf i).visible = [] := rfl
  rw [outline_eq, hshown, hvisible, List.map_nil, arrange, List.mergeSort_nil, List.map_nil]

theorem outline_of_visible_eq_singleton {c s d : Component} {hide : Bool}
    (hshown : c.shown hide = s) (hvisible : s.visible = [d]) :
    c.outline hide = .item s.label [d.outline hide] := by
  rw [outline_eq, hshown, hvisible, List.map_singleton, arrange, List.mergeSort_singleton,
    List.map_singleton]

/-- The text of a component has one line for each item of its outline, which draws the place of the
item; and components with the same text have the same outline if no line is broken. -/
theorem render_legible (c d : Component) (hide hide' : Bool) :
    c.render hide = "\n".intercalate ((c.outline hide).entries.map Outline.Entry.text) ∧
      (c.outline hide).entries.length = (c.outline hide).size ∧
      ((c.outline hide).IsUnbroken →
        (c.render hide).toList.splitOn '\n' =
          (c.outline hide).entries.map fun e => e.text.toList) ∧
      ((c.outline hide).IsUnbroken → (d.outline hide').IsUnbroken →
        c.render hide = d.render hide' → c.outline hide = d.outline hide') := by
  refine ⟨?_, Outline.length_entriesAt [] _, Outline.splitOn_text, ?_⟩
  · rw [← Outline.lines_eq]
    rfl
  · intro hc hd htext
    have hread : some (c.outline hide) = some (d.outline hide') := by
      rw [← Outline.ofText?_text hc, ← Outline.ofText?_text hd]
      exact congrArg Outline.ofText? htext
    exact Option.some.inj hread

/-- A container of a component that uses another; what that one says looks as if it were drawn. -/
def boxed : Component :=
  node { name := "Box", file := "/p/Box.js", unwrapped := true } [
    node { name := "App", file := "/p/App.js" } [leaf { name := "    └── b", file := "/p/b.js" }]]

def unboxed : Component :=
  node { name := "App (*)", file := "/q/App.js" } [leaf { name := "    └── b", file := "/q/b.js" }]

def unboxedOutline : Outline := .item "App (*)" [.item "    └── b" []]

theorem outline_boxed : boxed.outline true = unboxedOutline := by
  have hshown : boxed.shown true = node { name := "App (*)", file := "/p/App.js" }
      [leaf { name := "    └── b", file := "/p/b.js" }] :=
    (collapse_of_some rfl).trans (collapse_of_none rfl)
  rw [outline_of_visible_eq_singleton hshown rfl, outline_leaf]
  rfl

theorem outline_unboxed : unboxed.outline false = unboxedOutline := by
  have hshown : unboxed.shown false = unboxed := rfl
  rw [outline_of_visible_eq_singleton hshown rfl, outline_leaf]
  rfl

theorem render_legible_boxed :
    boxed.render true = "App (*)\n└──     └── b" ∧ boxed.render true = unboxed.render false ∧
      boxed.outline true = unboxed.outline false := by
  have hboxed : (boxed.outline true).IsUnbroken := outline_boxed ▸ by decide
  have hunboxed : (unboxed.outline false).IsUnbroken := outline_unboxed ▸ by decide
  have htext : boxed.render true = unboxed.render false := by
    rw [render, outline_boxed, render, outline_unboxed]
  refine ⟨?_, htext, (render_legible boxed unboxed true false).2.2.2 hboxed hunboxed htext⟩
  rw [render, outline_boxed]
  decide +kernel

end Component

end JsxOutline
