import JsxOutline.Module.ExportLine
import JsxOutline.Proofs.Stylesheets

/-!
# What an index file makes available

An index file binds a name by a line that exports what it imports, which counts if the file has
errors, by an export statement that takes names from elsewhere, or by an import.  Main statement:
lines go before export statements and these before imports, whatever their order in the text, and
among several of one kind the last one counts.
-/

namespace JsxOutline

/-! ### The last of a list -/

section Last

variable {α : Type} {P : α → Prop}

/-- A value is the last of a list that is of some kind. -/
def Last (P : α → Prop) (xs : List α) (x : α) : Prop :=
  P x ∧ ∃ front back, xs = front ++ x :: back ∧ ∀ y ∈ back, ¬ P y

theorem getLast?_filter_eq_some_iff_last [DecidablePred P] {xs : List α} {x : α} :
    (xs.filter fun y => decide (P y)).getLast? = some x ↔ Last P xs x := by
  rw [List.getLast?_filter, List.find?_eq_some_iff_append, decide_eq_true_iff]
  refine and_congr_right fun _ => ?_
  constructor
  · rintro ⟨back, front, hxs, hback⟩
    refine ⟨front.reverse, back.reverse, ?_, ?_⟩
    · rw [List.reverse_eq_append_iff.mp hxs, List.reverse_cons, List.append_assoc]
      rfl
    · intro y hy
      simpa using hback y (List.mem_reverse.mp hy)
  · rintro ⟨front, back, rfl, hback⟩
    exact ⟨back.reverse, front.reverse, by simp, by simpa using hback⟩

theorem not_last_nil (x : α) : ¬ Last P [] x := by
  rintro ⟨-, front, back, hnil, -⟩
  simp at hnil

theorem last_concat_iff {xs : List α} {x y : α} :
    Last P (xs ++ [x]) y ↔ P x ∧ x = y ∨ ¬ P x ∧ Last P xs y := by
  classical
  rw [← getLast?_filter_eq_some_iff_last, ← getLast?_filter_eq_some_iff_last, List.filter_append]
  by_cases hx : P x <;> simp [hx]

end Last

namespace Binding

/-- A binding is the last one of a name. -/
def IsLast (bs : List Binding) (name : String) (b : Binding) : Prop := Last (·.name = name) bs b

/-- No binding is of a name. -/
def Lacks (bs : List Binding) (name : String) : Prop := ∀ b ∈ bs, b.name ≠ name

theorem last?_eq_some_iff {bs : List Binding} {name : String} {b : Binding} :
    last? bs name = some b ↔ IsLast bs name b :=
  getLast?_filter_eq_some_iff_last

theorem last?_eq_none_iff {bs : List Binding} {name : String} :
    last? bs name = none ↔ Lacks bs name := by
  simp [last?, Lacks]

theorem last?_append (bs cs : List Binding) (name : String) :
    last? (bs ++ cs) name = (last? cs name).or (last? bs name) := by
  rw [last?, List.filter_append, List.getLast?_append]
  rfl

end Binding

/-! ### Names in export statements -/

namespace Module

open Binding (IsLast Lacks)

/-- What a tree takes from elsewhere by itself: a name that is listed in an export statement with a
source. -/
def exportAt? : List Tree → Option Binding
  | [name, clause, statement, _] =>
    if statement.isNamed "export_statement" ∧ clause.isNamed "export_clause" ∧
        name.isNamed "export_specifier" then
      (statement.field? "source").map fun source => ⟨localName name, Tree.value (some source)⟩
    else none
  | _ => none

/-- The names in the export statements of a module that have a source, in the order of the listing. -/
def exportListing (m : Module) : List Binding := (m.root.lineages []).filterMap exportAt?

theorem exportAt?_of_length (lineage : List Tree) (h : 4 < lineage.length) :
    exportAt? lineage = none := by
  match lineage, h with
  | _ :: _ :: _ :: _ :: _ :: _, _ => rfl

/-- The names that a tree which lies in others takes from elsewhere. -/
def exportsIn (above : List Tree) (t : Tree) : List Binding :=
  (t.lineages above).filterMap exportAt?

theorem exportsIn_eq (above : List Tree) (t : Tree) :
    exportsIn above t =
      (exportAt? (t :: above)).toList ++ t.children.flatMap fun c => exportsIn (t :: above) c :=
  Tree.filterMap_lineages _ above t

theorem exportsIn_name (name clause statement root : Tree) :
    exportsIn [clause, statement, root] name =
      (exportAt? [name, clause, statement, root]).toList := by
  have hbelow : name.children.flatMap (exportsIn [name, clause, statement, root]) = [] := by
    refine List.flatMap_eq_nil_iff.mpr ?_
    intro t _
    exact Tree.filterMap_lineages_of_length exportAt?_of_length (by simp) t
  rw [exportsIn_eq, hbelow, List.append_nil]

theorem exportedNames_eq (source : String) (clause : Tree) :
    exportedNames source clause =
      clause.children.flatMap fun name =>
        if name.isNamed "export_specifier" then [⟨localName name, source⟩] else [] := by
  rw [exportedNames, map_namedOf]
  simp only [localName_eq]

theorem exportsIn_clause (clause statement root : Tree) :
    exportsIn [statement, root] clause =
      if statement.isNamed "export_statement" ∧ clause.isNamed "export_clause" then
        (statement.field? "source").toList.flatMap fun source =>
          exportedNames (Tree.value (some source)) clause
      else [] := by
  rw [exportsIn_eq]
  simp only [exportsIn_name, exportAt?, exportedNames_eq]
  by_cases hclause : statement.isNamed "export_statement" ∧ clause.isNamed "export_clause"
  · cases statement.field? "source" with
    | none => simp [hclause]
    | some source => simp [hclause, apply_ite Option.toList]
  · simp [← and_assoc, hclause]

theorem exportBindings_eq (statement : Tree) :
    exportBindings statement =
      statement.children.flatMap fun clause =>
        if clause.isNamed "export_clause" then
          (statement.field? "source").toList.flatMap fun source =>
            exportedNames (Tree.value (some source)) clause
        else [] := by
  rw [exportBindings]
  cases statement.field? "source" with
  | none => simp
  | some source => simp [Tree.namedOf_eq, Tree.flatMap_filter]

theorem exportsIn_statement (statement root : Tree) :
    exportsIn [root] statement =
      if statement.isNamed "export_statement" then exportBindings statement else [] := by
  rw [exportsIn_eq, exportBindings_eq]
  simp only [exportsIn_clause]
  by_cases hstatement : statement.isNamed "export_statement" <;> simp [hstatement, exportAt?]

theorem exportListing_eq (m : Module) :
    m.exportListing = (m.statementsOf "export_statement").flatMap exportBindings := by
  have hlisting : m.exportListing = exportsIn [] m.root := rfl
  rw [hlisting, exportsIn_eq, m.statementsOf_eq (by decide), Tree.namedOf_eq, Tree.flatMap_filter]
  simp only [exportsIn_statement]
  rfl

/-! ### Exports without a source -/

/-- A statement that exports and takes nothing from elsewhere. -/
def isLocalExport (statement : Tree) : Bool :=
  statement.isNamed "export_statement" && (statement.field? "source").isNone

/-- The module without these statements, with the same text. -/
def withoutLocalExports (m : Module) : Module where
  file := m.file
  root := .node m.root.label (m.root.children.filter (!isLocalExport ·))

theorem exportBindings_of_isLocalExport {statement : Tree} (h : isLocalExport statement = true) :
    exportBindings statement = [] := by
  have hsource := (Bool.and_eq_true_iff.mp h).2
  rw [exportBindings, Option.isNone_iff_eq_none.mp hsource]

theorem statementsOf_withoutLocalExports (m : Module) {kind : String} (h : kind ≠ "comment") :
    m.withoutLocalExports.statementsOf kind = (m.statementsOf kind).filter (!isLocalExport ·) := by
  have hchildren : m.withoutLocalExports.root.children =
      m.root.children.filter (!isLocalExport ·) := rfl
  rw [statementsOf_eq _ h, statementsOf_eq _ h, Tree.namedOf_eq, Tree.namedOf_eq, hchildren,
    List.filter_filter, List.filter_filter]
  refine List.filter_congr ?_
  intro t _
  exact Bool.and_comm _ _

theorem imports_withoutLocalExports (m : Module) : m.withoutLocalExports.imports = m.imports := by
  have hkept : (m.statementsOf "import_statement").filter (!isLocalExport ·) =
      m.statementsOf "import_statement" := by
    refine List.filter_eq_self.mpr ?_
    intro t ht
    have hkind := (List.mem_filter.mp ht).2
    rw [beq_iff_eq] at hkind
    simp [isLocalExport, Tree.isNamed, hkind]
  rw [imports, imports, statementsOf_withoutLocalExports m (by decide), hkept]

theorem exportListing_withoutLocalExports (m : Module) :
    m.withoutLocalExports.exportListing = m.exportListing := by
  rw [exportListing_eq, exportListing_eq, statementsOf_withoutLocalExports m (by decide),
    Tree.flatMap_filter]
  have hbindings : ∀ t, (if (!isLocalExport t) = true then exportBindings t else []) =
      exportBindings t := by
    intro t
    cases h : isLocalExport t with
    | false => rfl
    | true => exact (exportBindings_of_isLocalExport h).symm
  rw [funext hbindings]

/-! ### The binding of a name -/

/-- The lines of a module that export what they import; they count if it has errors. -/
def exportLines (m : Module) : List Binding :=
  if m.root.hasError then ExportLine.bindings m.root.text else []

theorem reexports_eq (m : Module) :
    m.reexports = m.imports ++ m.exportListing ++ m.exportLines := by
  rw [reexports, exportListing_eq, exportLines]

theorem reexport?_eq (m : Module) (name : String) :
    m.reexport? name =
      (Binding.last? m.exportLines name).or
        ((Binding.last? m.exportListing name).or (Binding.last? m.imports name)) := by
  rw [reexport?, reexports_eq, Binding.last?_append, Binding.last?_append]

/-- What an index file makes available under a name. -/
inductive Provides (m : Module) (name : String) : Binding → Prop
  | line {b : Binding} : IsLast m.exportLines name b → Provides m name b
  | exported {b : Binding} : Lacks m.exportLines name → IsLast m.exportListing name b →
      Provides m name b
  | imported {b : Binding} : Lacks m.exportLines name → Lacks m.exportListing name →
      IsLast m.imports name b → Provides m name b

theorem reexport?_eq_some_iff {m : Module} {name : String} {b : Binding} :
    m.reexport? name = some b ↔ m.Provides name b := by
  rw [reexport?_eq, Option.or_eq_some_iff, Option.or_eq_some_iff]
  simp only [Binding.last?_eq_some_iff, Binding.last?_eq_none_iff]
  constructor
  · rintro (hline | ⟨hlines, hexported | ⟨hexports, himported⟩⟩)
    · exact .line hline
    · exact .exported hlines hexported
    · exact .imported hlines hexports himported
  · rintro (hline | ⟨hlines, hexported⟩ | ⟨hlines, hexports, himported⟩)
    · exact .inl hline
    · exact .inr ⟨hlines, .inl hexported⟩
    · exact .inr ⟨hlines, .inr ⟨hexports, himported⟩⟩

/-- An index file makes available under a name what the last of its lines with it says, or else the
last name in its export statements with a source, or else its last import; and nothing if there is
none of these.  Exports without a source do not matter, and a line is what would be found in the text
alone. -/
theorem reexport?_precedence (m : Module) (name : String) :
    (∀ b, m.reexport? name = some b ↔ m.Provides name b) ∧
    (m.reexport? name = none ↔
      Lacks m.exportLines name ∧ Lacks m.exportListing name ∧ Lacks m.imports name) ∧
    m.withoutLocalExports.reexport? name = m.reexport? name ∧
    (m.root.hasError = true → ¬ Lacks (ExportLine.bindings m.root.text) name →
      m.reexport? name = Binding.last? (ExportLine.bindings m.root.text) name) := by
  refine ⟨fun b => reexport?_eq_some_iff, ?_, ?_, ?_⟩
  · rw [reexport?_eq, Option.or_eq_none_iff, Option.or_eq_none_iff]
    simp only [Binding.last?_eq_none_iff]
  · have hlines : m.withoutLocalExports.exportLines = m.exportLines := rfl
    rw [reexport?_eq, reexport?_eq, hlines, exportListing_withoutLocalExports,
      imports_withoutLocalExports]
  · intro herror hsome
    rw [← Binding.last?_eq_none_iff] at hsome
    obtain ⟨b, hb⟩ := Option.ne_none_iff_exists'.mp hsome
    rw [reexport?_eq, exportLines, if_pos herror, hb, Option.some_or]

end Module

end JsxOutline
